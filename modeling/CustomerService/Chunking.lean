import CustomerService.Splitting
import Mathlib.Data.List.Flatten

/-! Parent-child chunking of a Markdown file: children are searched, and the parent of the
same section is what an answer is written from. -/
namespace CustomerService

open Text

namespace Knowledge

abbrev Bytes := List UInt8

/-- Where a file lies: at the root of the knowledge directory or in a folder of it. -/
structure Path where
  folder : Option Text
  name : Text
deriving DecidableEq

def stem (name : Text) : Text :=
  let head := ((name.reverse.dropWhile (· ≠ '.')).drop 1).reverse
  if '.' ∉ name ∨ head = [] ∨ name.getLast? = some '.' then name else head

inductive ChunkRole
  | parent
  | child
deriving DecidableEq

/-- The section of a file that a chunk is built from. -/
structure Origin where
  path : Path
  place : Nat
deriving DecidableEq

/-- A chunk with its metadata. The code keeps no record of `origin`. -/
structure Document where
  origin : Origin
  pageContent : Text
  source : Text
  courseCode : Text
  tenantId : Text
  contentHash : Text
  deleted : Bool
  chunk : Int
  chunkRole : ChunkRole
  chunkKind : Option Text
  parentId : Text
  sectionPath : Text
  moduleName : Text
  title : Option Text
  sectionTitle : Option Text
  subsection : Option Text
deriving DecidableEq

/-- What the header splitter gives for a section: its metadata and its text. -/
structure Section where
  title : Option Text
  sectionTitle : Option Text
  subsection : Option Text
  pageContent : Text

/-- The text splitters and the digest, whose `hexdigest` is never empty. -/
structure Tools where
  sha256 : Bytes → Text
  digest_ne : ∀ bytes, sha256 bytes ≠ []
  splitHeaders : Text → List Section
  splitFallback : Text → List Text
  splitChildren : Text → List Text

/-- `bytes.decode("utf-8")`. -/
def decode (bytes : Bytes) : Option Text := (String.fromUTF8? ⟨bytes.toArray⟩).map String.toList

def summaryMaxChars : Nat := 280

def sectionPath (part : Section) : Text :=
  join " / ".toList (([part.title,part.sectionTitle,part.subsection].map
    (fun value => strip (value.getD []))).filter (· ≠ []))

def parentId (source heading : Text) : Text :=
  let slug := (Regex.many isSpace 1 none).sub ['_'] (strip heading)
  source ++ "::".toList ++ if slug = [] then "root".toList else slug

def withPrefix (part : Section) (body : Text) : Text :=
  let head := sectionPath part
  let body := strip body
  if head ≠ [] ∧ body ≠ [] then head ++ '\n'::body else if head ≠ [] then head else body

/-- `re.split(r"\n\s*\n", text)`. -/
def blankLine : Regex := .seq (.one (· == '\n')) (.seq (.many isSpace 0 none) (.one (· == '\n')))

def rstrip (text : Text) : Text := (lstrip text.reverse).reverse

def firstParagraph (body : Text) : Text :=
  let text := strip body
  match ((blankLine.split text).map strip).find? (· ≠ []) with
  | some paragraph =>
    if summaryMaxChars < paragraph.length then rstrip (paragraph.take summaryMaxChars) ++ ['…']
    else paragraph
  | none => rstrip (text.take summaryMaxChars) ++ if summaryMaxChars < text.length then ['…'] else []

def buildSectionSummary (path parentBody : Text) : Text :=
  let intro := firstParagraph parentBody
  if path ≠ [] ∧ intro ≠ [] then path ++ '\n'::intro else if path ≠ [] then path else intro

/-- The name of a section: its `##` heading, its title, or its place. -/
def sectionName (part : Section) (place : Nat) : Text :=
  if part.sectionTitle.getD [] ≠ [] then part.sectionTitle.getD []
  else if part.title.getD [] ≠ [] then part.title.getD []
  else "part-".toList ++ (toString place).toList

structure File where
  path : Path
  tenantId : Text
  bytes : Bytes
deriving DecidableEq

section
variable (tools : Tools)

def baseDocument (file : File) (part : Section) (place : Nat) : Document where
  origin := ⟨file.path,place⟩
  pageContent := withPrefix part part.pageContent
  source := file.path.name
  courseCode := stem file.path.name
  tenantId := file.tenantId
  contentHash := tools.sha256 file.bytes
  deleted := false
  chunk := -((place : Int) + 1)
  chunkRole := .parent
  chunkKind := none
  parentId := parentId file.path.name (sectionName part place)
  sectionPath := sectionPath part
  moduleName := sectionName part place
  title := none
  sectionTitle := none
  subsection := none

def childDocument (file : File) (part : Section) (place : Nat) (body : Text) (kind : Option Text)
    (index : Int) : Document :=
  { baseDocument tools file part place with
    pageContent := body
    chunk := index
    chunkRole := .child
    chunkKind := kind
    title := part.title
    sectionTitle := part.sectionTitle
    subsection := part.subsection }

/-- The bodies of the children of a section, each with its kind: the summary, then the parts. -/
def childBodies (part : Section) : List (Text × Option Text) :=
  let body := withPrefix part part.pageContent
  let summary := buildSectionSummary (sectionPath part) body
  let bodies := tools.splitChildren body
  (if summary = [] then [] else [(summary,some "section_summary".toList)]) ++
    (if bodies = [] then [body] else bodies).map (·,none)

/-- One round of the loop over the sections, from the index of the next child on. -/
def sectionDocuments (file : File) (part : Section) (place childIndex : Nat) : List Document :=
  baseDocument tools file part place::
    ((childBodies tools part).zipIdx childIndex).map (fun item =>
      childDocument tools file part place item.1.1 item.1.2 item.2)

def chunkSections (file : File) : Nat → Nat → List Section → List Document
  | _, _, [] => []
  | place, childIndex, part::rest =>
    sectionDocuments tools file part place childIndex ++
      chunkSections file (place + 1) (childIndex + (childBodies tools part).length) rest

/-- The sections of a text; a text without any falls back to plain parts. -/
def sectionsOf (text : Text) : List Section :=
  let found := tools.splitHeaders text
  if found = [] then (tools.splitFallback text).map (fun body => ⟨none,none,none,body⟩) else found

/-- `build_parent_child_documents`; a file that is not UTF-8 raises. -/
def buildParentChildDocuments (file : File) : Option (List Document) :=
  (decode file.bytes).map (fun text => chunkSections tools file 0 0 (sectionsOf tools text))

end

def isRetrievalChunk (document : Document) : Bool := decide (document.chunkRole ≠ .parent)

end Knowledge
end CustomerService
