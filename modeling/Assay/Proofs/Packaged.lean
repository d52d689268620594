import Assay.Proofs.Template
import Assay.Proofs.PackagedPattern
import Assay.Rule.Packaged

/-!
# The packaged scenarios

What the packaged templates compile to: thirty-three scenarios, written out with their checks. The
families that share a template are lists over what their examples name.

## Main definitions

* `requiredFiles`, `requiredFields`, `urlFields`: What the packaged rules ask for by name.
* `compiled`: The scenarios.
* `checks`: The checks of their steps.

## Theorems

* `scenarios_eq_compiled`: The packaged templates compile to these scenarios.
* `check_mem_checks`: Every step asks for one of the checks.
-/

namespace Assay.Packaged

open Pattern Text

/-! ## Scenarios -/

/-- The files that a submission must hold. -/
def requiredFiles : List String := ["README.md", "PRODUCT.yaml", "e2e.log", "junit_01.xml"]

/-- The fields that the description of the product must fill. -/
def requiredFields : List String :=
  ["vendor", "name", "version", "type", "description", "website_url", "documentation_url",
    "contact_email_address"]

/-- The fields of the description that hold web addresses. -/
def urlFields : List String :=
  ["website_url", "repo_url", "documentation_url", "product_logo_url"]

/-- The fields of the description that are of a type, after the type. -/
def validFields : List (String × String) :=
  urlFields.map ("URL", ·) ++ [("email", "contact_email_address")]

/-- The addresses of the description whose contents are of a type, and the types. -/
def contentTypes : List (String × String) :=
  [("website_url", "text/html"), ("documentation_url", "text/html"),
    ("product_logo_url", "image/svg application/pdf application/postscript")]

/-- The scenario that asks for a file. -/
def fileScenario (file : String) : Scenario :=
  ⟨"required file " ++ file ++ " is present", "the submission must include the required files",
    [⟨"\"" ++ file ++ "\" is included in its file list", .fileListed file⟩]⟩

/-- The scenario that asks for a field of the description. -/
def fieldScenario (field : String) : Scenario :=
  ⟨"PRODUCT.yaml field " ++ field ++ " is present",
    "PRODUCT.yaml must contain the required and non-empty fields",
    [⟨"the yaml file \"PRODUCT.yaml\" contains the required and non-empty \"" ++ field ++ "\"",
      .fieldFilled "PRODUCT.yaml" field⟩]⟩

/-- The scenario that asks for a field of a type. -/
def validScenario (type field : String) : Scenario :=
  ⟨"PRODUCT.yaml field " ++ field ++ " is a valid " ++ type,
    "PRODUCT.yaml fields must hold valid URLs and email addresses",
    [⟨"the content of the \"" ++ type ++ "\" in the value of \"" ++ field ++ "\" is a valid " ++ type,
      .fieldValid type field⟩]⟩

/-- The scenario that asks for the content type of an address. -/
def contentScenario (field types : String) : Scenario :=
  ⟨"PRODUCT.yaml url " ++ field ++ " resolves to the expected content",
    "PRODUCT.yaml URLs must resolve to the expected content types",
    [⟨"the content of the url in the value of \"" ++ field ++ "\" matches its \"" ++ types ++ "\"",
      .contentTypeAmong field types⟩]⟩

/-- The scenarios on the layout of the submission. -/
def submissionScenarios : List Scenario :=
  [⟨"the submission title is well formed",
      "the title of the submission must be formatted like 'Conformance results for " ++
        "[KubernetesReleaseVersion]/[ProductName]'",
      [⟨"the title of the submission", .titleGiven⟩,
        ⟨"the title of the submission matches \"(.*) (v[0-9]+\\.[0-9]+)[ /](.*)\"",
          .titleMatches titlePattern⟩]⟩,
    ⟨"the submission files follow the folder structure",
      "the submission files must be in folders structured like " ++
        "[KubernetesReleaseVersion]/[ProductName]",
      [⟨"the files in the submission", .filesGiven⟩,
        ⟨"file folder structure matches \"(v[0-9]+\\.[0-9]+)/(.*)\"",
          .foldersMatch folderPattern⟩]⟩,
    ⟨"the submission holds a single product", "the submission must contain a single product",
      [⟨"the files in the submission", .filesGiven⟩,
        ⟨"there is only one path of folders", .oneFolder⟩]⟩] ++
  requiredFiles.map fileScenario ++
  [⟨"only required files are included", "the submission must only include the required files",
      [⟨"the files in the submission", .filesGiven⟩,
        ⟨"the files included in the submission are only: " ++
            "\"README.md, PRODUCT.yaml, e2e.log, junit_01.xml\"",
          .onlyFiles "README.md, PRODUCT.yaml, e2e.log, junit_01.xml"⟩]⟩,
    ⟨"the README is not empty", "README.md must describe how to reproduce the results",
      [⟨"a \"README.md\" file", .fileGiven "README.md"⟩,
        ⟨"\"README.md\" is not empty", .fileFilled "README.md"⟩]⟩,
    ⟨"the submission has a single commit", "the submission must contain a single commit",
      [⟨"a list of commits", .commitsGiven⟩, ⟨"there is only one commit", .oneCommit⟩]⟩,
    ⟨"the release version is supported", "the submission must target a valid and supported release",
      [⟨"the release version", .releaseGiven⟩,
        ⟨"it is a valid and supported release", .releaseSupported⟩]⟩,
    ⟨"the release version matches the title",
      "the release version in the title must match the folder structure",
      [⟨"the release version matches the release version in the title", .titleNamesRelease⟩]⟩]

/-- The scenarios on the description of the product. -/
def productScenarios : List Scenario :=
  [⟨"PRODUCT.yaml is valid", "PRODUCT.yaml must be a valid YAML mapping",
      [⟨"a \"PRODUCT.yaml\" file", .fileGiven "PRODUCT.yaml"⟩,
        ⟨"\"PRODUCT.yaml\" is valid \"yaml\"", .fileValid "PRODUCT.yaml" "yaml"⟩]⟩] ++
  requiredFields.map fieldScenario ++
  validFields.map (fun (type, field) => validScenario type field) ++
  [⟨"PRODUCT.yaml type is known", "PRODUCT.yaml must declare a known product type",
      [⟨"the field \"type\" matches one of the following values: \"installer, distribution, hosted\"",
          .fieldAmong "type" "installer, distribution, hosted"⟩]⟩] ++
  contentTypes.map fun (field, types) => contentScenario field types

/-- The scenarios on the evidence of the tests. -/
def evidenceScenarios : List Scenario :=
  [⟨"the e2e log release version matches",
      "the release version in e2e.log must match the folder structure",
      [⟨"a \"e2e.log\" file", .fileGiven "e2e.log"⟩,
        ⟨"a line of the file \"e2e.log\" matches " ++
            "\"e2e (?:test|suite) version: (v[0-9]+\\.[0-9]+(?:\\.[0-9]+)?)\"",
          .lineMatches "e2e.log" logPattern⟩,
        ⟨"that version matches the release version in the folder structure", .versionsAgree⟩]⟩,
    ⟨"the tests pass", "the submitted tests must pass and be successful",
      [⟨"the tests pass and are successful", .testsPass⟩]⟩,
    ⟨"all required tests are present",
      "all required conformance tests must be present in junit_01.xml",
      [⟨"all required tests in junit_01.xml are present", .testsComplete⟩]⟩]

/-- The packaged scenarios. -/
def compiled : List Scenario :=
  submissionScenarios ++ productScenarios ++ evidenceScenarios

theorem mem_compiled_of_product {scenario : Scenario} (h : scenario ∈ productScenarios) :
    scenario ∈ compiled :=
  List.mem_append_left _ (List.mem_append_right _ h)

/-! ## Compilation -/

/-- The packaged patterns are what their texts write. -/
theorem readPattern_packaged : ∀ w ∈ [titlePattern, folderPattern, logPattern],
    (Pattern.read w.source).toOption = some w.pattern := by
  decide +kernel

theorem readPattern_eq_ok (w : WrittenPattern)
    (h : w ∈ [titlePattern, folderPattern, logPattern]) : Form.readPattern w.source = .ok w := by
  have hread := readPattern_packaged w h
  unfold Form.readPattern
  cases hpattern : Pattern.read w.source with
  | ok pattern =>
      rw [hpattern] at hread
      rw [Option.some.inj hread]
  | error stop =>
      rw [hpattern] at hread
      cases hread

variable {source : String}

/-! The templates with examples are families, so their texts are read for any value filled in. -/

theorem compile_files : Script.compileTemplate source ⟨"required file <file> is present",
    "the submission must include the required files",
    ["\"<file>\" is included in its file list"], requiredFiles.map fun file => [("file", file)]⟩ =
      .ok (requiredFiles.map fileScenario) := by
  -- No file name has a quotation mark, so the name is told apart from the words around it.
  have hmarks : ∀ file ∈ requiredFiles, '"' ∉ file.toList := by simp [requiredFiles]
  have hname : Template.Cut "required file <file> is present" "required file " "file"
      " is present" :=
    .ofList rfl (by decide)
  have hstep : Template.Cut "\"<file>\" is included in its file list" "\"" "file"
      "\" is included in its file list" :=
    .ofList rfl (by decide)
  refine Script.compileTemplate_of_rows (by decide) ?_
    (notMem_toList_ofList (by decide)) ?_ ?_
  · exact fun file _ => Template.fill_cut hname rfl (Template.fill_plain (notMem_toList_ofList (by decide)))
  · exact fun file _ => Template.fill_cut hstep rfl (Template.fill_plain (notMem_toList_ofList (by decide)))
  · intro file hfile
    refine Script.bindStep_fill 5 rfl [file] ?_ ?_ rfl
    · simp [Form.unary, Phrase.fill, String.append_assoc]
    · exact ⟨hmarks file hfile, trivial⟩

theorem compile_fields : Script.compileTemplate source ⟨"PRODUCT.yaml field <field> is present",
    "PRODUCT.yaml must contain the required and non-empty fields",
    ["the yaml file \"PRODUCT.yaml\" contains the required and non-empty \"<field>\""],
    requiredFields.map fun field => [("field", field)]⟩ =
      .ok (requiredFields.map fieldScenario) := by
  have hmarks : ∀ field ∈ requiredFields, '"' ∉ field.toList := by simp [requiredFields]
  have hname : Template.Cut "PRODUCT.yaml field <field> is present" "PRODUCT.yaml field " "field"
      " is present" :=
    .ofList rfl (by decide)
  have hstep : Template.Cut
      "the yaml file \"PRODUCT.yaml\" contains the required and non-empty \"<field>\""
      "the yaml file \"PRODUCT.yaml\" contains the required and non-empty \"" "field" "\"" :=
    .ofList rfl (by decide)
  refine Script.compileTemplate_of_rows (by decide) ?_
    (notMem_toList_ofList (by decide)) ?_ ?_
  · exact fun field _ => Template.fill_cut hname rfl (Template.fill_plain (notMem_toList_ofList (by decide)))
  · exact fun field _ => Template.fill_cut hstep rfl (Template.fill_plain (notMem_toList_ofList (by decide)))
  · intro field hfield
    refine Script.bindStep_fill 15 rfl ["PRODUCT.yaml", field] ?_ ?_ rfl
    · simp [Form.binary, Phrase.fill, ← String.append_assoc]
    · exact ⟨by simp, hmarks field hfield, trivial⟩

theorem compile_valid : Script.compileTemplate source
    ⟨"PRODUCT.yaml field <field> is a valid <type>",
      "PRODUCT.yaml fields must hold valid URLs and email addresses",
      ["the content of the \"<type>\" in the value of \"<field>\" is a valid <type>"],
      validFields.map fun (type, field) => [("type", type), ("field", field)]⟩ =
      .ok (validFields.map fun (type, field) => validScenario type field) := by
  have hmarks : ∀ pair ∈ validFields,
      '"' ∉ pair.1.toList ∧ '"' ∉ pair.2.toList ∧ '\n' ∉ pair.1.toList := by
    simp [validFields, urlFields]
  have hname : Template.Cut "PRODUCT.yaml field <field> is a valid <type>" "PRODUCT.yaml field "
      "field" " is a valid <type>" :=
    .ofList rfl (by decide)
  have hnameType : Template.Cut " is a valid <type>" " is a valid " "type" "" :=
    .ofList rfl (by decide)
  have hstep : Template.Cut
      "the content of the \"<type>\" in the value of \"<field>\" is a valid <type>"
      "the content of the \"" "type" "\" in the value of \"<field>\" is a valid <type>" :=
    .ofList rfl (by decide)
  have hstepField : Template.Cut "\" in the value of \"<field>\" is a valid <type>"
      "\" in the value of \"" "field" "\" is a valid <type>" :=
    .ofList rfl (by decide)
  have hstepType : Template.Cut "\" is a valid <type>" "\" is a valid " "type" "" :=
    .ofList rfl (by decide)
  have hend : '<' ∉ "".toList := notMem_toList_ofList (by decide)
  refine Script.compileTemplate_of_rows (by decide) ?_
    (notMem_toList_ofList (by decide)) ?_ ?_
  · rintro ⟨type, field⟩ _
    rw [Template.fill_cut hname rfl (Template.fill_cut hnameType rfl (Template.fill_plain hend))]
    simp [String.append_assoc]
  · rintro ⟨type, field⟩ _
    rw [Template.fill_cut hstep rfl (Template.fill_cut hstepField rfl
      (Template.fill_cut hstepType rfl (Template.fill_plain hend)))]
    simp [String.append_assoc]
  · rintro ⟨type, field⟩ hmem
    rcases hmarks _ hmem with ⟨htype, hfield, hline⟩
    -- The type is written twice, as an argument and in the remark, and only the first is read.
    refine Script.bindStep_fill 16 rfl [type, field, type] ?_ ?_ rfl
    · simp [Form.binary, Phrase.fill, ← String.toList_inj]
    · exact ⟨htype, hfield, hline, rfl⟩

theorem compile_contents : Script.compileTemplate source
    ⟨"PRODUCT.yaml url <field> resolves to the expected content",
      "PRODUCT.yaml URLs must resolve to the expected content types",
      ["the content of the url in the value of \"<field>\" matches its \"<types>\""],
      contentTypes.map fun (field, types) => [("field", field), ("types", types)]⟩ =
      .ok (contentTypes.map fun (field, types) => contentScenario field types) := by
  have hmarks : ∀ pair ∈ contentTypes, '"' ∉ pair.1.toList ∧ '"' ∉ pair.2.toList := by
    simp [contentTypes]
  have hname : Template.Cut "PRODUCT.yaml url <field> resolves to the expected content"
      "PRODUCT.yaml url " "field" " resolves to the expected content" :=
    .ofList rfl (by decide)
  have hstep : Template.Cut
      "the content of the url in the value of \"<field>\" matches its \"<types>\""
      "the content of the url in the value of \"" "field" "\" matches its \"<types>\"" :=
    .ofList rfl (by decide)
  have hstepTypes : Template.Cut "\" matches its \"<types>\"" "\" matches its \"" "types" "\"" :=
    .ofList rfl (by decide)
  refine Script.compileTemplate_of_rows (by decide) ?_
    (notMem_toList_ofList (by decide)) ?_ ?_
  · exact fun _ _ => Template.fill_cut hname rfl (Template.fill_plain (notMem_toList_ofList (by decide)))
  · rintro ⟨field, types⟩ _
    rw [Template.fill_cut hstep rfl
      (Template.fill_cut hstepTypes rfl (Template.fill_plain (notMem_toList_ofList (by decide))))]
    simp [String.append_assoc]
  · rintro ⟨field, types⟩ hmem
    rcases hmarks _ hmem with ⟨hfield, htypes⟩
    refine Script.bindStep_fill 18 rfl [field, types] ?_ ?_ rfl
    · simp [Form.binary, Phrase.fill, ← String.toList_inj]
    · exact ⟨hfield, htypes, trivial⟩

/-! The texts with arguments of their own. -/

theorem bindStep_titleMatches :
    Script.bindStep "the title of the submission matches \"(.*) (v[0-9]+\\.[0-9]+)[ /](.*)\"" =
      .ok ⟨"the title of the submission matches \"(.*) (v[0-9]+\\.[0-9]+)[ /](.*)\"",
        .titleMatches titlePattern⟩ := by
  have hpattern : Form.readPattern "(.*) (v[0-9]+\\.[0-9]+)[ /](.*)" = .ok titlePattern :=
    readPattern_eq_ok titlePattern (by simp)
  refine Script.bindStep_fill 1 rfl ["(.*) (v[0-9]+\\.[0-9]+)[ /](.*)"] ?_ ?_ ?_
  · simp [Form.searching, Phrase.fill]
  · exact ⟨notMem_toList_ofList (by decide), trivial⟩
  · simp only [Form.searching, Phrase.given, List.headD_cons, hpattern, Except.map]

theorem bindStep_foldersMatch :
    Script.bindStep "file folder structure matches \"(v[0-9]+\\.[0-9]+)/(.*)\"" =
      .ok ⟨"file folder structure matches \"(v[0-9]+\\.[0-9]+)/(.*)\"",
        .foldersMatch folderPattern⟩ := by
  have hpattern : Form.readPattern "(v[0-9]+\\.[0-9]+)/(.*)" = .ok folderPattern :=
    readPattern_eq_ok folderPattern (by simp)
  refine Script.bindStep_fill 9 rfl ["(v[0-9]+\\.[0-9]+)/(.*)"] ?_ ?_ ?_
  · simp [Form.searching, Phrase.fill]
  · exact ⟨notMem_toList_ofList (by decide), trivial⟩
  · simp only [Form.searching, Phrase.given, List.headD_cons, hpattern, Except.map]

theorem bindStep_lineMatches :
    Script.bindStep ("a line of the file \"e2e.log\" matches " ++
        "\"e2e (?:test|suite) version: (v[0-9]+\\.[0-9]+(?:\\.[0-9]+)?)\"") =
      .ok ⟨"a line of the file \"e2e.log\" matches " ++
        "\"e2e (?:test|suite) version: (v[0-9]+\\.[0-9]+(?:\\.[0-9]+)?)\"",
        .lineMatches "e2e.log" logPattern⟩ := by
  have hpattern : Form.readPattern
      "e2e (?:test|suite) version: (v[0-9]+\\.[0-9]+(?:\\.[0-9]+)?)" = .ok logPattern :=
    readPattern_eq_ok logPattern (by simp)
  refine Script.bindStep_fill 13 rfl
    ["e2e.log", "e2e (?:test|suite) version: (v[0-9]+\\.[0-9]+(?:\\.[0-9]+)?)"] ?_ ?_ ?_
  · simp [Form.searchingIn, Phrase.fill]
  · exact ⟨notMem_toList_ofList (by decide), notMem_toList_ofList (by decide), trivial⟩
  · simp only [Form.searchingIn, Phrase.given, List.headD_cons, List.tail_cons, hpattern, Except.map]

theorem bindStep_fileGiven {file text : String} (htext : "a \"" ++ file ++ "\" file" = text)
    (h : '"' ∉ file.toList) : Script.bindStep text = .ok ⟨text, .fileGiven file⟩ := by
  refine Script.bindStep_fill 6 rfl [file] ?_ ?_ rfl
  · rw [← htext]
    simp [Form.unary, Phrase.fill, ← String.toList_inj]
  · exact ⟨by simp [Phrase.fill], h, trivial⟩

theorem bindStep_testsComplete :
    Script.bindStep "all required tests in junit_01.xml are present" =
      .ok ⟨"all required tests in junit_01.xml are present", .testsComplete⟩ := by
  refine Script.bindStep_fill 24 rfl [] ?_ trivial rfl
  simp [Form.plain, Phrase.fill, evidenceFileName]

/-! The scripts, template by template. -/

theorem compile_submission : Script.compile source submission = .ok submissionScenarios := by
  unfold submission submissionScenarios
  simp only [List.cons_append, List.nil_append]
  refine Script.compile_cons_plain ⟨rfl, rfl, rfl, ?_⟩ ?_
  · exact .cons (Script.bindStep_plain 0 rfl) (.cons bindStep_titleMatches .nil)
  refine Script.compile_cons_plain ⟨rfl, rfl, rfl, ?_⟩ ?_
  · exact .cons (Script.bindStep_plain 3 rfl) (.cons bindStep_foldersMatch .nil)
  refine Script.compile_cons_plain ⟨rfl, rfl, rfl, ?_⟩ ?_
  · exact .cons (Script.bindStep_plain 3 rfl) (.cons (Script.bindStep_plain 10 rfl) .nil)
  refine Script.compile_cons compile_files ?_
  refine Script.compile_cons_plain ⟨rfl, rfl, rfl, ?_⟩ ?_
  · refine .cons (Script.bindStep_plain 3 rfl) (.cons ?_ .nil)
    refine Script.bindStep_fill 4 rfl ["README.md, PRODUCT.yaml, e2e.log, junit_01.xml"] ?_ ?_ rfl
    · simp [Form.unary, Phrase.fill]
    · exact ⟨notMem_toList_ofList (by decide), trivial⟩
  refine Script.compile_cons_plain ⟨rfl, rfl, rfl, ?_⟩ ?_
  · refine .cons ?_ (.cons ?_ .nil)
    · exact bindStep_fileGiven (by simp) (notMem_toList_ofList (by decide))
    · refine Script.bindStep_fill 7 rfl ["README.md"] ?_ ?_ rfl
      · simp [Form.unary, Phrase.fill]
      · exact ⟨notMem_toList_ofList (by decide), trivial⟩
  refine Script.compile_cons_plain ⟨rfl, rfl, rfl, ?_⟩ ?_
  · exact .cons (Script.bindStep_plain 19 rfl) (.cons (Script.bindStep_plain 20 rfl) .nil)
  refine Script.compile_cons_plain ⟨rfl, rfl, rfl, ?_⟩ ?_
  · exact .cons (Script.bindStep_plain 11 rfl) (.cons (Script.bindStep_plain 12 rfl) .nil)
  refine Script.compile_cons_plain ⟨rfl, rfl, rfl, ?_⟩ rfl
  exact .cons (Script.bindStep_plain 2 rfl) .nil

theorem compile_product : Script.compile source product = .ok productScenarios := by
  unfold product productScenarios
  simp only [List.cons_append, List.nil_append, List.append_assoc]
  refine Script.compile_cons_plain ⟨rfl, rfl, rfl, ?_⟩ ?_
  · refine .cons (bindStep_fileGiven (by simp) (notMem_toList_ofList (by decide))) (.cons ?_ .nil)
    refine Script.bindStep_fill 8 rfl ["PRODUCT.yaml", "yaml"] ?_ ?_ rfl
    · simp [Form.binary, Phrase.fill]
    · exact ⟨notMem_toList_ofList (by decide), notMem_toList_ofList (by decide), trivial⟩
  refine Script.compile_cons compile_fields (Script.compile_cons compile_valid ?_)
  refine Script.compile_cons_plain ⟨rfl, rfl, rfl, ?_⟩ ?_
  · refine .cons ?_ .nil
    refine Script.bindStep_fill 17 rfl ["type", "installer, distribution, hosted"] ?_ ?_ rfl
    · simp [Form.binary, Phrase.fill]
    · exact ⟨notMem_toList_ofList (by decide), notMem_toList_ofList (by decide), trivial⟩
  exact Script.compile_one compile_contents

theorem compile_evidence : Script.compile source evidence = .ok evidenceScenarios := by
  unfold evidence evidenceScenarios
  refine Script.compile_cons_plain ⟨rfl, rfl, rfl, ?_⟩ ?_
  · exact .cons (bindStep_fileGiven (by simp) (notMem_toList_ofList (by decide)))
      (.cons bindStep_lineMatches (.cons (Script.bindStep_plain 14 rfl) .nil))
  refine Script.compile_cons_plain ⟨rfl, rfl, rfl, ?_⟩ ?_
  · exact .cons (Script.bindStep_plain 23 rfl) .nil
  refine Script.compile_cons_plain ⟨rfl, rfl, rfl, ?_⟩ rfl
  exact .cons bindStep_testsComplete .nil

/-- The packaged templates compile to these scenarios. -/
theorem scenarios_eq_compiled : scenarios = .ok compiled :=
  Script.compile_append (Script.compile_append compile_submission compile_product) compile_evidence

/-! ## Checks -/

open Check in
/-- The checks of the packaged scenarios, in order. -/
def checks : List Check :=
  [titleGiven, titleMatches titlePattern, filesGiven, foldersMatch folderPattern, filesGiven,
    oneFolder] ++
  requiredFiles.map fileListed ++
  [filesGiven, onlyFiles "README.md, PRODUCT.yaml, e2e.log, junit_01.xml", fileGiven "README.md",
    fileFilled "README.md", commitsGiven, oneCommit, releaseGiven, releaseSupported,
    titleNamesRelease, fileGiven productFileName, fileValid productFileName "yaml"] ++
  requiredFields.map (fieldFilled productFileName) ++
  urlFields.map (fieldValid "URL") ++
  [fieldValid "email" "contact_email_address",
    fieldAmong "type" "installer, distribution, hosted",
    contentTypeAmong "website_url" "text/html", contentTypeAmong "documentation_url" "text/html",
    contentTypeAmong "product_logo_url" "image/svg application/pdf application/postscript",
    fileGiven "e2e.log", lineMatches "e2e.log" logPattern, versionsAgree, testsPass, testsComplete]

theorem checks_of_compiled : (compiled.flatMap fun s => s.steps.map Step.check) = checks := rfl

theorem check_mem_checks {scenario : Scenario} (hs : scenario ∈ compiled) {step : Step}
    (h : step ∈ scenario.steps) : step.check ∈ checks := by
  rw [← checks_of_compiled]
  exact List.mem_flatMap.mpr ⟨scenario, hs, List.mem_map_of_mem h⟩

/-! The types that the packaged rules ask fields to be of, as checks compare them. -/

theorem lowerAscii_strip_url : lowerAscii (strip "URL") = "url" := by
  rw [lowerAscii, strip, String.toList_ofList, String.toList_ofList]
  rfl

theorem lowerAscii_strip_email : lowerAscii (strip "email") = "email" := by
  rw [lowerAscii, strip, String.toList_ofList, String.toList_ofList]
  rfl

/-! The checks that read a description read that of the product. -/

theorem fileValid_mem_checks {file type : String} (h : .fileValid file type ∈ checks) :
    file = productFileName := by
  simp only [checks, List.mem_append, List.mem_cons, List.mem_map, reduceCtorEq, and_false,
    exists_false, Check.fileValid.injEq, List.not_mem_nil, or_false, false_or] at h
  exact h.1

theorem fieldFilled_mem_checks {file field : String} (h : .fieldFilled file field ∈ checks) :
    file = productFileName := by
  simp only [checks, List.mem_append, List.mem_cons, List.mem_map, reduceCtorEq, and_false,
    exists_false, Check.fieldFilled.injEq, List.not_mem_nil, or_false, false_or] at h
  rcases h with ⟨_, -, hfile, -⟩
  exact hfile.symm

theorem fieldValid_mem_checks {type field : String} (h : .fieldValid type field ∈ checks) :
    type = "URL" ∧ field ∈ urlFields ∨ type = "email" := by
  simp only [checks, List.mem_append, List.mem_cons, List.mem_map, reduceCtorEq, and_false,
    exists_false, Check.fieldValid.injEq, List.not_mem_nil, or_false, false_or] at h
  rcases h with ⟨_, hfield, htype, rfl⟩ | ⟨htype, -⟩
  · exact Or.inl ⟨htype.symm, hfield⟩
  · exact Or.inr htype

end Assay.Packaged
