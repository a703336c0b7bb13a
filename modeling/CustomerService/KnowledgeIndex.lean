import CustomerService.Chunking
import CustomerService.Dict
import Mathlib.Data.Char
import Mathlib.Data.List.Induction
import Mathlib.Data.List.Lex
import Mathlib.Data.List.Sort
import Mathlib.Tactic.SplitIfs

/-! The knowledge directory, its documents by tenant, and what a search reads of them. -/
namespace CustomerService.Knowledge

open Text

/-! The directory. -/

/-- The root files and the folders of tenants, by name. -/
structure Directory where
  files : Dict Text Bytes
  folders : Dict Text (Dict Text Bytes)
deriving DecidableEq

/-- The pattern `*.md`. -/
def isMarkdown (name : Text) : Bool := ".md".toList.isSuffixOf name

def sortedByName {Value : Type*} (entries : List (Text × Value)) : List (Text × Value) :=
  entries.insertionSort (fun first second => first.1 ≤ second.1)

/-- `sorted(folder.glob("*.md"))`. -/
def markdownFiles (folder : Dict Text Bytes) : List (Text × Bytes) :=
  sortedByName (folder.entries.filter (fun entry => isMarkdown entry.1))

def rootFiles (defaultTenant : Text) (directory : Directory) : List File :=
  (markdownFiles directory.files).map (fun entry => ⟨⟨none,entry.1⟩,defaultTenant,entry.2⟩)

def folderFiles (folder : Text × Dict Text Bytes) : List File :=
  (markdownFiles folder.2).map (fun entry => ⟨⟨some folder.1,entry.1⟩,folder.1,entry.2⟩)

/-- The files in the order in which they are loaded, each with its tenant. -/
def knowledgeFiles (defaultTenant : Text) (directory : Directory) : List File :=
  rootFiles defaultTenant directory ++ (sortedByName directory.folders.entries).flatMap folderFiles

/-! The documents. -/

inductive Failure
  | unicodeDecode
  | emptyKnowledge
  | embedding
deriving DecidableEq

section
variable (tools : Tools)

def loadFiles : List File → Except Failure (List Document)
  | [] => .ok []
  | file::rest =>
    match buildParentChildDocuments tools file with
    | none => .error .unicodeDecode
    | some documents => (loadFiles rest).map (documents ++ ·)

def loadKnowledgeDocuments (defaultTenant : Text) (directory : Directory) :
    Except Failure (List Document) :=
  loadFiles tools (knowledgeFiles defaultTenant directory)

end

/-- `grouped.setdefault(key, []).append(document)`, for each document. -/
def collect (key : Document → Text) (documents : List Document) : Dict Text (List Document) :=
  documents.foldl (fun grouped document =>
    grouped.set (key document) (grouped.getD (key document) [] ++ [document])) ∅

def groupDocuments (documents : List Document) : Dict Text (List Document) :=
  collect Document.tenantId documents

/-- The documents of a FAISS store in the order of its vectors. -/
abbrev Store := List Document

abbrev Stores := Dict Text Store

def storesFromGroups (grouped : Dict Text (List Document)) : Stores :=
  grouped.filter (fun _ documents => !documents.isEmpty)

def buildStores (tools : Tools) (defaultTenant : Text) (directory : Directory) :
    Except Failure Stores :=
  match loadKnowledgeDocuments tools defaultTenant directory with
  | .error failure => .error failure
  | .ok documents =>
    if documents = [] then .error .emptyKnowledge
    else .ok (storesFromGroups (groupDocuments documents))

/-! What a search reads; a course code that is empty is none. -/

def platformTenant : Text := "platform".toList

def iterStoreDocuments (store : Store) : List Document := store.filter (fun document => !document.deleted)

def matchesCourse (courseCode : Text) (document : Document) : Bool :=
  courseCode.isEmpty || document.courseCode == courseCode

def searchScopes (indexes : Stores) (tenantId courseCode : Text) : List Text :=
  if courseCode ≠ [] then [tenantId].filter indexes.keys.contains
  else (if indexes.keys.contains platformTenant ∧ tenantId ≠ platformTenant then [tenantId,platformTenant]
    else [tenantId]).filter indexes.keys.contains

def iterTenantDocuments (indexes : Stores) (tenantId courseCode : Text) : List Document :=
  ((searchScopes indexes tenantId courseCode).flatMap (fun scope =>
    iterStoreDocuments (indexes.getD scope []))).filter (matchesCourse courseCode)

def parentLookup (corpus : List Document) : Dict Text Document :=
  (∅ : Dict Text Document).update ((corpus.filter (fun document =>
    document.chunkRole = .parent ∧ document.parentId ≠ [])).map (fun document =>
      (document.parentId,document)))

def contextDocument (hit : Document) (parents : Dict Text Document) : Document :=
  if hit.chunkRole = .child ∧ hit.parentId ≠ [] then parents.getD hit.parentId hit else hit

/-! Grouping. -/

def withKey (key : Document → Text) (value : Text) (documents : List Document) : List Document :=
  documents.filter (fun document => key document == value)

private theorem collect_concat (key : Document → Text) (documents : List Document) (last : Document) :
    collect key (documents ++ [last]) = (collect key documents).set (key last)
      ((collect key documents).getD (key last) [] ++ [last]) := by
  simp [collect]

theorem get?_collect (key : Document → Text) (documents : List Document) (value : Text) :
    (collect key documents).get? value =
      if withKey key value documents = [] then none else some (withKey key value documents) := by
  induction documents using List.reverseRecOn with
  | nil => rfl
  | append_singleton documents last ih =>
    rw [collect_concat,Dict.get?_set]
    by_cases same : value = key last
    · have here : withKey key value (documents ++ [last]) = withKey key value documents ++ [last] := by
        simp [withKey,same]
      rw [if_pos same,here,if_neg (by simp),Dict.getD,← same,ih]
      split_ifs with nothing
      · rw [nothing]
        rfl
      · rfl
    · have here : withKey key value (documents ++ [last]) = withKey key value documents := by
        simp [withKey,Ne.symm same]
      rw [if_neg same,here,ih]

theorem getD_collect (key : Document → Text) (documents : List Document) (value : Text) :
    (collect key documents).getD value [] = withKey key value documents := by
  rw [Dict.getD,get?_collect]
  split_ifs with nothing
  · rw [nothing]
    rfl
  · rfl

theorem get?_storesFromGroups (documents : List Document) (tenantId : Text) :
    (storesFromGroups (groupDocuments documents)).get? tenantId =
      (groupDocuments documents).get? tenantId := by
  rw [storesFromGroups,Dict.get?_filter,groupDocuments,get?_collect]
  split_ifs with nothing
  · rfl
  · simp [Option.filter,nothing]

theorem getD_storesFromGroups (documents : List Document) (tenantId : Text) :
    (storesFromGroups (groupDocuments documents)).getD tenantId [] =
      withKey Document.tenantId tenantId documents := by
  rw [Dict.getD,get?_storesFromGroups,← Dict.getD]
  exact getD_collect _ _ _

/-! Loading. -/

section
variable (tools : Tools)

def fileDocuments (file : File) : List Document := (buildParentChildDocuments tools file).getD []

theorem loadFiles_ok {files : List File} {documents : List Document}
    (loaded : loadFiles tools files = .ok documents) :
    documents = files.flatMap (fileDocuments tools) := by
  induction files generalizing documents with
  | nil =>
    cases loaded
    rfl
  | cons file rest ih =>
    unfold loadFiles at loaded
    cases built : buildParentChildDocuments tools file with
    | none => simp [built] at loaded
    | some head =>
      cases more : loadFiles tools rest with
      | error failure => simp [built,more,Except.map] at loaded
      | ok tail =>
        simp only [built,more,Except.map,Except.ok.injEq] at loaded
        rw [List.flatMap_cons,← ih more,← loaded,fileDocuments,built]
        rfl

theorem buildStores_ok {defaultTenant : Text} {directory : Directory} {stores : Stores}
    (built : buildStores tools defaultTenant directory = .ok stores) :
    stores = storesFromGroups (groupDocuments
      ((knowledgeFiles defaultTenant directory).flatMap (fileDocuments tools))) := by
  unfold buildStores at built
  cases loaded : loadKnowledgeDocuments tools defaultTenant directory with
  | error failure => simp [loaded] at built
  | ok documents =>
    rw [loaded] at built
    dsimp only at built
    split_ifs at built
    rw [← loadFiles_ok tools loaded]
    exact (Except.ok.inj built).symm

end

/-! Searched scopes. -/

/-- The scopes a search asks for, whether there is a store for them or not. -/
def wantedScopes (tenantId courseCode : Text) : List Text :=
  if courseCode ≠ [] ∨ tenantId = platformTenant then [tenantId] else [tenantId,platformTenant]

theorem searchScopes_eq (indexes : Stores) (tenantId courseCode : Text) :
    searchScopes indexes tenantId courseCode =
      (wantedScopes tenantId courseCode).filter indexes.keys.contains := by
  unfold searchScopes wantedScopes
  by_cases course : courseCode = []
  · by_cases own : tenantId = platformTenant
    · simp [course,own]
    · by_cases platform : platformTenant ∈ indexes.keys
      · simp [course,own,platform]
      · simp [course,own,platform,List.filter_cons]
  · simp [course]

theorem iterTenantDocuments_eq (indexes : Stores) (tenantId courseCode : Text) :
    iterTenantDocuments indexes tenantId courseCode =
      ((wantedScopes tenantId courseCode).flatMap (fun scope =>
        iterStoreDocuments (indexes.getD scope []))).filter (matchesCourse courseCode) := by
  rw [iterTenantDocuments,searchScopes_eq]
  congr 1
  induction wantedScopes tenantId courseCode with
  | nil => rfl
  | cons scope rest ih =>
    by_cases present : scope ∈ indexes.keys
    · rw [List.filter_cons_of_pos (List.contains_iff_mem.mpr present),List.flatMap_cons,ih,
        List.flatMap_cons]
    · have missing : indexes.getD scope [] = [] := by
        rw [Dict.getD,(Dict.get?_eq_none indexes scope).mpr present]
        rfl
      rw [List.filter_cons_of_neg (by simpa using present),ih,List.flatMap_cons,missing]
      rfl

end CustomerService.Knowledge
