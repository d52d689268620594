import Assay.Rule.Script

/-!
# The packaged rules

The rules that a review follows unless it is given others: three scripts, one on the layout of the
submission, one on the description of the product and one on the evidence of the tests.

## Main definitions

* `Packaged.submission`, `Packaged.product`, `Packaged.evidence`: The templates of the scripts.
* `Packaged.scenarios`: The scenarios of all three, in order.
-/

namespace Assay.Packaged

/-- The templates on the layout of the submission. -/
def submission : List Template := [
  { name := "the submission title is well formed"
    description := "the title of the submission must be formatted like 'Conformance results for " ++
      "[KubernetesReleaseVersion]/[ProductName]'"
    steps := [
      "the title of the submission",
      "the title of the submission matches \"(.*) (v[0-9]+\\.[0-9]+)[ /](.*)\""]
    examples := [] },
  { name := "the submission files follow the folder structure"
    description := "the submission files must be in folders structured like " ++
      "[KubernetesReleaseVersion]/[ProductName]"
    steps := [
      "the files in the submission",
      "file folder structure matches \"(v[0-9]+\\.[0-9]+)/(.*)\""]
    examples := [] },
  { name := "the submission holds a single product"
    description := "the submission must contain a single product"
    steps := ["the files in the submission", "there is only one path of folders"]
    examples := [] },
  { name := "required file <file> is present"
    description := "the submission must include the required files"
    steps := ["\"<file>\" is included in its file list"]
    examples := [
      [("file", "README.md")], [("file", "PRODUCT.yaml")], [("file", "e2e.log")],
      [("file", "junit_01.xml")]] },
  { name := "only required files are included"
    description := "the submission must only include the required files"
    steps := [
      "the files in the submission",
      "the files included in the submission are only: " ++
        "\"README.md, PRODUCT.yaml, e2e.log, junit_01.xml\""]
    examples := [] },
  { name := "the README is not empty"
    description := "README.md must describe how to reproduce the results"
    steps := ["a \"README.md\" file", "\"README.md\" is not empty"]
    examples := [] },
  { name := "the submission has a single commit"
    description := "the submission must contain a single commit"
    steps := ["a list of commits", "there is only one commit"]
    examples := [] },
  { name := "the release version is supported"
    description := "the submission must target a valid and supported release"
    steps := ["the release version", "it is a valid and supported release"]
    examples := [] },
  { name := "the release version matches the title"
    description := "the release version in the title must match the folder structure"
    steps := ["the release version matches the release version in the title"]
    examples := [] }]

/-- The templates on the description of the product. -/
def product : List Template := [
  { name := "PRODUCT.yaml is valid"
    description := "PRODUCT.yaml must be a valid YAML mapping"
    steps := ["a \"PRODUCT.yaml\" file", "\"PRODUCT.yaml\" is valid \"yaml\""]
    examples := [] },
  { name := "PRODUCT.yaml field <field> is present"
    description := "PRODUCT.yaml must contain the required and non-empty fields"
    steps := ["the yaml file \"PRODUCT.yaml\" contains the required and non-empty \"<field>\""]
    examples := [
      [("field", "vendor")], [("field", "name")], [("field", "version")], [("field", "type")],
      [("field", "description")], [("field", "website_url")], [("field", "documentation_url")],
      [("field", "contact_email_address")]] },
  { name := "PRODUCT.yaml field <field> is a valid <type>"
    description := "PRODUCT.yaml fields must hold valid URLs and email addresses"
    steps := ["the content of the \"<type>\" in the value of \"<field>\" is a valid <type>"]
    examples := [
      [("type", "URL"), ("field", "website_url")],
      [("type", "URL"), ("field", "repo_url")],
      [("type", "URL"), ("field", "documentation_url")],
      [("type", "URL"), ("field", "product_logo_url")],
      [("type", "email"), ("field", "contact_email_address")]] },
  { name := "PRODUCT.yaml type is known"
    description := "PRODUCT.yaml must declare a known product type"
    steps := [
      "the field \"type\" matches one of the following values: \"installer, distribution, hosted\""]
    examples := [] },
  { name := "PRODUCT.yaml url <field> resolves to the expected content"
    description := "PRODUCT.yaml URLs must resolve to the expected content types"
    steps := ["the content of the url in the value of \"<field>\" matches its \"<types>\""]
    examples := [
      [("field", "website_url"), ("types", "text/html")],
      [("field", "documentation_url"), ("types", "text/html")],
      [("field", "product_logo_url"),
        ("types", "image/svg application/pdf application/postscript")]] }]

/-- The templates on the evidence of the tests. -/
def evidence : List Template := [
  { name := "the e2e log release version matches"
    description := "the release version in e2e.log must match the folder structure"
    steps := [
      "a \"e2e.log\" file",
      "a line of the file \"e2e.log\" matches " ++
        "\"e2e (?:test|suite) version: (v[0-9]+\\.[0-9]+(?:\\.[0-9]+)?)\"",
      "that version matches the release version in the folder structure"]
    examples := [] },
  { name := "the tests pass"
    description := "the submitted tests must pass and be successful"
    steps := ["the tests pass and are successful"]
    examples := [] },
  { name := "all required tests are present"
    description := "all required conformance tests must be present in junit_01.xml"
    steps := ["all required tests in junit_01.xml are present"]
    examples := [] }]

/-- The names of the scripts, in order. -/
def names : List String := ["10-submission.yaml", "20-product.yaml", "30-evidence.yaml"]

/-- The templates of all three scripts, in order. -/
def templates : List Template :=
  submission ++ product ++ evidence

/-- The scenarios of the packaged rules, in order. -/
def scenarios : Except (Halt ScriptProblem) (List Scenario) :=
  Script.compile "the packaged rules" templates

end Assay.Packaged
