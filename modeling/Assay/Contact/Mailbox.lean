import Assay.Text.Blank
import Assay.Text.Search

/-!
# Mail addresses

The address in a field of a mail header. A field may hold several addresses, each written alone, in
angle brackets after a phrase, or in a named group; comments in parentheses may stand between the
words. A field that is no list of addresses is read as far as it goes. Only a field with exactly
one address is valid, and a bracket in the address, or a parenthesis without a partner, shows that
the field was not read as it was meant.

## Main definitions

* `addresses`: The addresses of a field.
* `onlyAddress?`: The address of a field that holds exactly one.
* `isMailbox`: Whether that address has a local part and a domain, and no blank.
-/

namespace Assay.Contact

open Text

/-- Whether a character is a special one of header fields. -/
def isSpecial (c : Char) : Bool :=
  "()<>@,:;.\"[]".toList.contains c

/-- Whether a character is a space or a tab. -/
def isSpaceOrTab (c : Char) : Bool :=
  c == ' ' || c == '\t'

/-- Whether a character is space between words or ends a line. -/
def isFolding (c : Char) : Bool :=
  isSpaceOrTab c || c == '\r' || c == '\n'

/-- Whether a character ends an atom. -/
def endsAtom (c : Char) : Bool :=
  isSpecial c || isFolding c

/-- Whether a character ends a word of a phrase, in which points are allowed. -/
def endsPhraseWord (c : Char) : Bool :=
  endsAtom c && c != '.'

/-- What follows a comment, from after its opening parenthesis; `depth` counts the comments around it.
    A carriage return closes a comment too. -/
def skipComment : Nat → Bool → List Char → List Char
  | _, _, [] => []
  | depth, true, _ :: cs => skipComment depth false cs
  | depth, false, c :: cs =>
    if c = ')' ∨ c = '\r' then
      match depth with
      | 0 => cs
      | d + 1 => skipComment d false cs
    else if c = '(' then skipComment (depth + 1) false cs
    else skipComment depth (c == '\\') cs

/-- What stands up to a closing character or a carriage return, with backslashes taken away, and what
    follows it. -/
def takeDelimited (close : Char) : Bool → List Char → List Char × List Char
  | _, [] => ([], [])
  | true, c :: cs =>
    let (inside, rest) := takeDelimited close false cs
    (c :: inside, rest)
  | false, c :: cs =>
    if c = close ∨ c = '\r' then ([], cs)
    else if c = '\\' then takeDelimited close true cs
    else
      let (inside, rest) := takeDelimited close false cs
      (c :: inside, rest)

/-- The spaces and tabs before the next word, comments passed over, and the word on. -/
def nextWord : Nat → List Char → List Char × List Char
  | 0, cs => ([], cs)
  | _ + 1, [] => ([], [])
  | fuel + 1, c :: cs =>
    if isFolding c then
      let (space, rest) := nextWord fuel cs
      (if isSpaceOrTab c then c :: space else space, rest)
    else if c = '(' then nextWord fuel (skipComment 0 false cs)
    else ([], c :: cs)

/-- What follows folding space and comments. -/
def skipFolding (cs : List Char) : List Char :=
  (nextWord (cs.length + 1) cs).2

/-- The words of a phrase, and what follows it. -/
def takePhrase : Nat → List Char → List (List Char) × List Char
  | 0, cs => ([], cs)
  | _ + 1, [] => ([], [])
  | fuel + 1, c :: cs =>
    if isFolding c then takePhrase fuel cs
    else if c = '"' then
      let (word, rest) := takeDelimited '"' false cs
      let (words, rest) := takePhrase fuel rest
      (word :: words, rest)
    else if c = '(' then takePhrase fuel (skipComment 0 false cs)
    else if endsPhraseWord c then ([], c :: cs)
    else
      let (word, rest) := (c :: cs).span fun c => !endsPhraseWord c
      let (words, rest) := takePhrase fuel rest
      (word :: words, rest)

/-- A domain, and what follows it. A second at-sign makes it empty. -/
def takeDomain : Nat → List Char → List Char → List Char × List Char
  | 0, domain, cs => (domain, cs)
  | _ + 1, domain, [] => (domain, [])
  | fuel + 1, domain, c :: cs =>
    if isSpaceOrTab c then takeDomain fuel domain cs
    else if c = '(' then takeDomain fuel domain (skipComment 0 false cs)
    else if c = '[' then
      let (literal, rest) := takeDelimited ']' false cs
      takeDomain fuel (domain ++ '[' :: literal ++ [']']) rest
    else if c = '.' then takeDomain fuel (domain ++ ['.']) cs
    else if c = '@' then ([], c :: cs)
    else if endsAtom c then (domain, c :: cs)
    else
      let (atom, rest) := (c :: cs).span fun c => !endsAtom c
      takeDomain fuel (domain ++ atom) rest

/-- Pieces of a local part, last first, without a last one that is blank. -/
def dropBlankPiece (pieces : List (List Char)) : List (List Char) :=
  match pieces with
  | p :: rest => if (stripChars p).isEmpty then rest else pieces
  | [] => []

/-- Quotation marks and backslashes with a backslash in front. -/
def requote (cs : List Char) : List Char :=
  cs.flatMap fun c => if c = '\\' ∨ c = '"' then ['\\', c] else [c]

/-- The pieces of a local part, last first, and what follows it. Space between two pieces is kept, next to
    points it is not. -/
def takeLocal : Nat → List (List Char) → List Char → List (List Char) × List Char
  | 0, pieces, cs => (pieces, cs)
  | _ + 1, pieces, [] => (pieces, [])
  | fuel + 1, pieces, c :: cs =>
    let goOn (pieces : List (List Char)) (rest : List Char) : List (List Char) × List Char :=
      let (space, rest) := nextWord (rest.length + 1) rest
      takeLocal fuel (if space.isEmpty then pieces else space :: pieces) rest
    if c = '.' then takeLocal fuel (['.'] :: dropBlankPiece pieces) (skipFolding cs)
    else if c = '"' then
      let (inside, rest) := takeDelimited '"' false cs
      goOn (('"' :: requote inside ++ ['"']) :: pieces) rest
    else if endsAtom c then (dropBlankPiece pieces, c :: cs)
    else
      let (atom, rest) := (c :: cs).span fun c => !endsAtom c
      goOn (atom :: pieces) rest

/-- A bare address, and what follows it; without a domain after its at-sign it is empty. -/
def takeBareAddress (cs : List Char) : List Char × List Char :=
  let (pieces, rest) := takeLocal (cs.length + 1) [] (skipFolding cs)
  let local_ := pieces.reverse.flatten
  match rest with
  | '@' :: r =>
    let r := skipFolding r
    let (domain, rest) := takeDomain (r.length + 1) [] r
    (if domain.isEmpty then [] else local_ ++ '@' :: domain, rest)
  | _ => (local_, rest)

/-- The address after an opening angle bracket, past the route before it, and what follows it. -/
def takeRouted : Nat → Bool → List Char → List Char × List Char
  | 0, _, cs => ([], cs)
  | _ + 1, _, [] => ([], [])
  | fuel + 1, true, cs =>
    takeRouted fuel false (skipFolding (takeDomain (cs.length + 1) [] cs).2)
  | fuel + 1, false, c :: cs =>
    if c = '>' then ([], cs)
    else if c = '@' then takeRouted fuel true (skipFolding cs)
    else if c = ':' then takeRouted fuel false (skipFolding cs)
    else
      let (address, rest) := takeBareAddress (c :: cs)
      (address, rest.drop 1)

/-- What follows an address and a comma after it. -/
def skipComma (cs : List Char) : List Char :=
  match skipFolding cs with
  | ',' :: r => r
  | r => r

mutual

/-- The addresses of the next entry of a list, and what follows it. -/
def takeEntry : Nat → List Char → List (List Char) × List Char
  | 0, cs => ([], cs)
  | fuel + 1, cs =>
    let start := skipFolding cs
    let (phrase, rest) := takePhrase (start.length + 1) start
    let alone := phrase.take 1
    match skipFolding rest with
    | [] => (alone, [])
    | '.' :: _ | '@' :: _ =>
      let (address, rest) := takeBareAddress start
      ([address], skipComma rest)
    | ':' :: r =>
      let (members, rest) := takeMembers fuel r
      (members, skipComma rest)
    | '<' :: r =>
      let r := skipFolding r
      let (address, rest) := takeRouted (2 * r.length + 2) false r
      ([address], skipComma rest)
    | c :: r =>
      if phrase.isEmpty && isSpecial c then ([], skipComma r) else (alone, skipComma (c :: r))

/-- The addresses of a group up to its semicolon, and what follows it. -/
def takeMembers : Nat → List Char → List (List Char) × List Char
  | 0, cs => ([], cs)
  | fuel + 1, cs =>
    if cs.isEmpty then ([], [])
    else match skipFolding cs with
      | ';' :: r => ([], r)
      | r =>
        let (first, rest) := takeEntry fuel r
        let (more, rest) := takeMembers fuel rest
        (first ++ more, rest)

end

/-- The addresses of a field; an entry without any counts as one that is empty. -/
def addresses : Nat → List Char → List (List Char)
  | 0, _ => []
  | fuel + 1, cs =>
    if cs.isEmpty then []
    else
      let (entry, rest) := takeEntry (2 * cs.length + 4) cs
      (if entry.isEmpty then [[]] else entry) ++ addresses fuel rest

/-- The characters outside of quotation marks; `held` is what stands behind a mark that may turn out
    not to be closed. A character after a backslash is never a mark. -/
def outsideQuotes : Option (List Char) → List Char → List Char
  | none, [] => []
  | some held, [] => held.reverse
  | none, '\\' :: c :: r => '\\' :: c :: outsideQuotes none r
  | none, '"' :: r => outsideQuotes (some ['"']) r
  | none, c :: r => c :: outsideQuotes none r
  | some held, '\\' :: c :: r => outsideQuotes (some (c :: '\\' :: held)) r
  | some _, '"' :: r => outsideQuotes none r
  | some held, c :: r => outsideQuotes (some (c :: held)) r

/-- Whether parentheses match, inside `depth` of them. -/
def balanced : Nat → List Char → Bool
  | depth, [] => depth == 0
  | depth, '\\' :: _ :: r => balanced depth r
  | depth, '(' :: r => balanced (depth + 1) r
  | depth, ')' :: r =>
    match depth with
    | 0 => false
    | d + 1 => balanced d r
  | depth, _ :: r => balanced depth r

/-- The address of a field that holds exactly one, with matching parentheses around it and no bracket
    in it. -/
def onlyAddress? (field : List Char) : Option (List Char) :=
  if balanced 0 (outsideQuotes none field) then
    match addresses (field.length + 1) field with
    | [address] => if address.contains '[' then none else some address
    | _ => none
  else none

/-- Whether a field holds one address, which has a local part and a domain and no blank in it. -/
def isMailbox (field : String) : Bool :=
  match onlyAddress? field.toList with
  | none => false
  | some address =>
    !address.any isBlank &&
      match partitionLastChars '@' address with
      | some (before, after) => !before.isEmpty && !after.isEmpty
      | none => false

end Assay.Contact
