import CustomerService.KnowledgeIndex
import Mathlib.Data.List.Nodup
import Mathlib.Data.List.Perm.Basic
import Mathlib.Data.List.Flatten

/-! Which parent a child is resolved to: its own for every child exactly when no two
sections of the searched files have one parent id. -/
namespace CustomerService.Knowledge

open Text

/-! The lookup. -/

/-- Documents with what ties children to parents: one parent for a section, at least one
child of it, and the parent's id on every child. -/
structure Family (corpus : List Document) : Prop where
  parents : ((corpus.filter (fun document => document.chunkRole = .parent)).map Document.origin).Nodup
  named : ∀ document ∈ corpus, document.parentId ≠ []
  parent : ∀ child ∈ corpus, child.chunkRole = .child → ∃ parent ∈ corpus,
    parent.chunkRole = .parent ∧ parent.origin = child.origin ∧ parent.parentId = child.parentId
  child : ∀ parent ∈ corpus, parent.chunkRole = .parent → ∃ child ∈ corpus,
    child.chunkRole = .child ∧ child.origin = parent.origin ∧ child.parentId = parent.parentId

/-- The document is resolved to the parent of its own section. -/
def Resolves (corpus : List Document) (child : Document) : Prop :=
  let found := contextDocument child (parentLookup corpus)
  found.chunkRole = .parent ∧ found.origin = child.origin

private theorem mem_parentLookup {corpus : List Document} {key : Text} {parent : Document}
    (found : (parentLookup corpus).get? key = some parent) :
    parent ∈ corpus ∧ parent.chunkRole = .parent ∧ parent.parentId = key := by
  rcases Dict.get?_update_mem _ _ found with listed | nothing
  · obtain ⟨document,member,same⟩ := List.mem_map.mp listed
    obtain ⟨inside,isParent⟩ := List.mem_filter.mp member
    cases same
    exact ⟨inside,(of_decide_eq_true isParent).1,rfl⟩
  · cases nothing

private theorem parentLookup_present {corpus : List Document} {parent : Document} (member : parent ∈ corpus)
    (isParent : parent.chunkRole = .parent) (named : parent.parentId ≠ []) :
    (parentLookup corpus).get? parent.parentId ≠ none := by
  apply Dict.get?_update_present
  refine Or.inl (List.mem_map_of_mem (List.mem_map.mpr ⟨parent,?_,rfl⟩))
  exact List.mem_filter.mpr ⟨member,decide_eq_true ⟨isParent,named⟩⟩

section
variable {corpus : List Document} (family : Family corpus)
include family

theorem Family.resolved {child : Document} (member : child ∈ corpus) (isChild : child.chunkRole = .child) :
    ∃ parent ∈ corpus, parent.chunkRole = .parent ∧ parent.parentId = child.parentId ∧
      (parentLookup corpus).get? child.parentId = some parent ∧
      contextDocument child (parentLookup corpus) = parent := by
  obtain ⟨own,inside,isParent,_,same⟩ := family.parent child member isChild
  have present := parentLookup_present inside isParent (family.named own inside)
  rw [same] at present
  obtain ⟨parent,found⟩ := Option.ne_none_iff_exists'.mp present
  obtain ⟨here,role,key⟩ := mem_parentLookup found
  refine ⟨parent,here,role,key,found,?_⟩
  rw [contextDocument,if_pos ⟨isChild,family.named child member⟩,Dict.getD,found]
  rfl

theorem Family.resolves_iff :
    (∀ child ∈ corpus, child.chunkRole = .child → Resolves corpus child) ↔
      ((corpus.filter (fun document => document.chunkRole = .parent)).map Document.parentId).Nodup := by
  constructor
  · intro all
    refine (List.Nodup.of_map _ family.parents).map_on (fun first one second two same => ?_)
    obtain ⟨inside,isParent⟩ := List.mem_filter.mp one
    obtain ⟨inside',isParent'⟩ := List.mem_filter.mp two
    obtain ⟨child,member,isChild,origin,id⟩ := family.child first inside (of_decide_eq_true isParent)
    obtain ⟨child',member',isChild',origin',id'⟩ :=
      family.child second inside' (of_decide_eq_true isParent')
    obtain ⟨parent,_,_,_,found,here⟩ := family.resolved member isChild
    obtain ⟨parent',_,_,_,found',here'⟩ := family.resolved member' isChild'
    have place := (all child member isChild).2
    have place' := (all child' member' isChild').2
    rw [id,same,← id',found'] at found
    rw [here] at place
    rw [here',Option.some.inj found] at place'
    refine List.inj_on_of_nodup_map family.parents one two ?_
    rw [← origin,← origin',← place,place']
  · intro distinct child member isChild
    obtain ⟨own,inside,isParent,origin,id⟩ := family.parent child member isChild
    obtain ⟨parent,here,role,key,_,found⟩ := family.resolved member isChild
    have same : parent = own := List.inj_on_of_nodup_map distinct
      (List.mem_filter.mpr ⟨here,decide_eq_true role⟩)
      (List.mem_filter.mpr ⟨inside,decide_eq_true isParent⟩) (key.trans id.symm)
    rw [Resolves,found,same]
    exact ⟨isParent,origin⟩

end

/-! The chunks of a file. -/

section
variable (tools : Tools)

private theorem childBodies_ne (part : Section) : childBodies tools part ≠ [] := by
  unfold childBodies
  dsimp only
  split_ifs <;> simp_all

def fileSections (file : File) : List (Section × Nat) :=
  match decode file.bytes with
  | none => []
  | some text => (sectionsOf tools text).zipIdx

theorem mem_sectionDocuments {file : File} {part : Section} {place childIndex : Nat}
    {document : Document} (member : document ∈ sectionDocuments tools file part place childIndex) :
    document = baseDocument tools file part place ∨ ∃ body kind index,
      document = childDocument tools file part place body kind index := by
  rcases List.mem_cons.mp member with base | child
  · exact Or.inl base
  · obtain ⟨item,_,rfl⟩ := List.mem_map.mp child
    exact Or.inr ⟨_,_,_,rfl⟩

private theorem mem_chunkSections {file : File} {place childIndex : Nat} {parts : List Section}
    {document : Document} (member : document ∈ chunkSections tools file place childIndex parts) :
    ∃ item ∈ parts.zipIdx place, ∃ index,
      document ∈ sectionDocuments tools file item.1 item.2 index ∧
      sectionDocuments tools file item.1 item.2 index ⊆
        chunkSections tools file place childIndex parts := by
  induction parts generalizing place childIndex with
  | nil => cases member
  | cons part rest ih =>
    rw [chunkSections] at member ⊢
    rw [List.zipIdx_cons]
    rcases List.mem_append.mp member with here | later
    · exact ⟨_,List.mem_cons_self,childIndex,here,List.subset_append_left _ _⟩
    · obtain ⟨item,listed,index,inside,within⟩ := ih later
      exact ⟨item,List.mem_cons_of_mem _ listed,index,inside,
        List.Subset.trans within (List.subset_append_right _ _)⟩

private theorem parents_chunkSections (file : File) (place childIndex : Nat) (parts : List Section) :
    (chunkSections tools file place childIndex parts).filter
        (fun document => document.chunkRole = .parent) =
      (parts.zipIdx place).map (fun item => baseDocument tools file item.1 item.2) := by
  induction parts generalizing place childIndex with
  | nil => rfl
  | cons part rest ih =>
    have children : (((childBodies tools part).zipIdx childIndex).map (fun item =>
        childDocument tools file part place item.1.1 item.1.2 item.2)).filter
          (fun document => document.chunkRole = .parent) = [] := by
      rw [List.filter_eq_nil_iff]
      intro document listed
      obtain ⟨item,_,rfl⟩ := List.mem_map.mp listed
      simp [childDocument]
    rw [chunkSections,List.filter_append,ih,sectionDocuments,List.filter_cons_of_pos,children,
      List.zipIdx_cons]
    · rfl
    · rfl

private theorem parents_fileDocuments (file : File) :
    (fileDocuments tools file).filter (fun document => document.chunkRole = .parent) =
      (fileSections tools file).map (fun item => baseDocument tools file item.1 item.2) := by
  unfold fileDocuments buildParentChildDocuments fileSections
  cases decode file.bytes with
  | none => rfl
  | some text => exact parents_chunkSections tools file 0 0 _

theorem mem_fileDocuments {file : File} {document : Document}
    (member : document ∈ fileDocuments tools file) :
    ∃ item ∈ fileSections tools file, ∃ index,
      document ∈ sectionDocuments tools file item.1 item.2 index ∧
      sectionDocuments tools file item.1 item.2 index ⊆ fileDocuments tools file := by
  unfold fileDocuments buildParentChildDocuments fileSections at *
  cases known : decode file.bytes with
  | none =>
    rw [known] at member
    cases member
  | some text =>
    rw [known] at member
    exact mem_chunkSections tools member

private theorem parentId_ne (source heading : Text) : parentId source heading ≠ [] := by
  simp [parentId]

private theorem nodup_places (file : File) : ((fileSections tools file).map Prod.snd).Nodup := by
  unfold fileSections
  cases decode file.bytes with
  | none => exact List.nodup_nil
  | some text =>
    dsimp only
    rw [List.zipIdx_map_snd]
    exact List.nodup_range'

private theorem family_of_files {files : List File} (distinct : (files.map File.path).Nodup) :
    Family (files.flatMap (fileDocuments tools)) := by
  have inside {file : File} (listed : file ∈ files) {part : Section} {place index : Nat}
      (within : sectionDocuments tools file part place index ⊆ fileDocuments tools file)
      {document : Document} (member : document ∈ sectionDocuments tools file part place index) :
      document ∈ files.flatMap (fileDocuments tools) :=
    List.mem_flatMap.mpr ⟨file,listed,within member⟩
  refine ⟨?_,fun document member => ?_,fun child member isChild => ?_,fun parent member isParent => ?_⟩
  · rw [List.filter_flatMap,List.map_flatMap]
    simp only [parents_fileDocuments,List.map_map]
    rw [List.nodup_flatMap]
    constructor
    · intro file _
      refine List.Nodup.of_map Origin.place ?_
      rw [List.map_map]
      exact nodup_places tools file
    · refine (List.pairwise_map.mp distinct).imp (fun apart origin one two => apart ?_)
      obtain ⟨_,_,rfl⟩ := List.mem_map.mp one
      obtain ⟨_,_,same⟩ := List.mem_map.mp two
      exact (congrArg Origin.path same).symm
  · obtain ⟨file,_,here⟩ := List.mem_flatMap.mp member
    obtain ⟨item,_,index,built,_⟩ := mem_fileDocuments tools here
    rcases mem_sectionDocuments tools built with rfl | ⟨body,kind,place,rfl⟩
    · exact parentId_ne _ _
    · exact parentId_ne _ _
  · obtain ⟨file,listed,here⟩ := List.mem_flatMap.mp member
    obtain ⟨item,_,index,built,within⟩ := mem_fileDocuments tools here
    refine ⟨_,inside listed within List.mem_cons_self,rfl,?_⟩
    rcases mem_sectionDocuments tools built with rfl | ⟨body,kind,place,rfl⟩
    · exact ⟨rfl,rfl⟩
    · exact ⟨rfl,rfl⟩
  · obtain ⟨file,listed,here⟩ := List.mem_flatMap.mp member
    obtain ⟨item,_,index,built,within⟩ := mem_fileDocuments tools here
    obtain ⟨first,rest,split⟩ := List.exists_cons_of_ne_nil (childBodies_ne tools item.1)
    refine ⟨_,inside listed within (List.mem_cons_of_mem _ (List.mem_map_of_mem
      (a := (first,index)) ?_)),rfl,?_⟩
    · rw [split,List.zipIdx_cons]
      exact List.mem_cons_self
    · rcases mem_sectionDocuments tools built with rfl | ⟨body,kind,place,rfl⟩
      · exact ⟨rfl,rfl⟩
      · cases isParent

/-! The searched files. -/

/-- The parent ids of the sections of a file: its name with the slug of each section's name. -/
def sectionKeys (file : File) : List Text :=
  (fileSections tools file).map (fun item =>
    parentId file.path.name (sectionName item.1 item.2))

def searchedFiles (defaultTenant : Text) (directory : Directory) (tenantId courseCode : Text) :
    List File :=
  ((wantedScopes tenantId courseCode).flatMap (fun scope =>
    (knowledgeFiles defaultTenant directory).filter (fun file => file.tenantId == scope))).filter
      (fun file => courseCode.isEmpty || stem file.path.name == courseCode)

private theorem parent_ids (files : List File) :
    ((files.flatMap (fileDocuments tools)).filter (fun document =>
        document.chunkRole = .parent)).map Document.parentId =
      files.flatMap (sectionKeys tools) := by
  rw [List.filter_flatMap,List.map_flatMap]
  simp only [parents_fileDocuments,List.map_map]
  rfl

theorem filter_flatMap_of_same {Item Value : Type*} {items : List Item} {parts : Item → List Value}
    {keep : Value → Bool} {keepItem : Item → Bool}
    (same : ∀ item ∈ items, ∀ value ∈ parts item, keep value = keepItem item) :
    (items.flatMap parts).filter keep = (items.filter keepItem).flatMap parts := by
  induction items with
  | nil => rfl
  | cons item rest ih =>
    have tail := ih (fun other listed => same other (List.mem_cons_of_mem _ listed))
    have here := same item List.mem_cons_self
    rw [List.flatMap_cons,List.filter_append,tail]
    cases decided : keepItem item with
    | true =>
      rw [List.filter_cons_of_pos decided,List.flatMap_cons,
        List.filter_eq_self.mpr (fun value member => (here value member).trans decided)]
    | false =>
      rw [List.filter_cons_of_neg (by simp [decided]),List.filter_eq_nil_iff.mpr,List.nil_append]
      intro value member
      simp [here value member,decided]

theorem file_of_document {file : File} {document : Document}
    (member : document ∈ fileDocuments tools file) :
    document.tenantId = file.tenantId ∧ document.courseCode = stem file.path.name ∧
      document.deleted = false := by
  obtain ⟨item,_,index,built,_⟩ := mem_fileDocuments tools member
  rcases mem_sectionDocuments tools built with rfl | ⟨body,kind,place,rfl⟩
  · exact ⟨rfl,rfl,rfl⟩
  · exact ⟨rfl,rfl,rfl⟩

private theorem iter_built {defaultTenant : Text} {directory : Directory} {stores : Stores}
    (built : buildStores tools defaultTenant directory = .ok stores) (tenantId courseCode : Text) :
    iterTenantDocuments stores tenantId courseCode =
      (searchedFiles defaultTenant directory tenantId courseCode).flatMap (fileDocuments tools) := by
  have store (scope : Text) : iterStoreDocuments (stores.getD scope []) =
      ((knowledgeFiles defaultTenant directory).filter (fun file => file.tenantId == scope)).flatMap
        (fileDocuments tools) := by
    rw [buildStores_ok tools built,getD_storesFromGroups,withKey,filter_flatMap_of_same,
      iterStoreDocuments,List.filter_eq_self]
    · intro document member
      obtain ⟨file,_,here⟩ := List.mem_flatMap.mp member
      simp [(file_of_document tools here).2.2]
    · intro file _ document member
      rw [(file_of_document tools member).1]
  rw [iterTenantDocuments_eq]
  simp only [store]
  rw [← List.flatMap_assoc,searchedFiles,filter_flatMap_of_same]
  intro file _ document member
  rw [matchesCourse,(file_of_document tools member).2.1]

private theorem nodup_sortedByName {Value : Type*} {entries : List (Text × Value)}
    (distinct : (entries.map Prod.fst).Nodup) : ((sortedByName entries).map Prod.fst).Nodup :=
  ((List.perm_insertionSort _ entries).map Prod.fst).nodup_iff.mpr distinct

private theorem nodup_markdownFiles (folder : Dict Text Bytes) :
    ((markdownFiles folder).map Prod.fst).Nodup :=
  nodup_sortedByName (folder.distinct.sublist (List.filter_sublist.map Prod.fst))

theorem nodup_paths (defaultTenant : Text) (directory : Directory) :
    ((knowledgeFiles defaultTenant directory).map File.path).Nodup := by
  have names (folder : Option Text) {entries : List (Text × Bytes)}
      (distinct : (entries.map Prod.fst).Nodup) :
      (entries.map (fun entry => (⟨folder,entry.1⟩ : Path))).Nodup := by
    refine List.Nodup.of_map Path.name ?_
    rw [List.map_map]
    exact distinct
  have folders := nodup_sortedByName directory.folders.distinct
  rw [knowledgeFiles,List.map_append,rootFiles,List.map_map,List.map_flatMap]
  refine (names none (nodup_markdownFiles _)).append ?_ ?_
  · rw [List.nodup_flatMap]
    refine ⟨fun folder _ => ?_,?_⟩
    · rw [folderFiles,List.map_map]
      exact names _ (nodup_markdownFiles _)
    · refine (List.pairwise_map.mp folders).imp (fun apart path one two => apart ?_)
      obtain ⟨first,here,rfl⟩ := List.mem_map.mp one
      obtain ⟨second,there,same⟩ := List.mem_map.mp two
      obtain ⟨_,_,rfl⟩ := List.mem_map.mp here
      obtain ⟨_,_,rfl⟩ := List.mem_map.mp there
      exact (Option.some.inj (congrArg Path.folder same)).symm
  · intro path root inner
    obtain ⟨_,_,rfl⟩ := List.mem_map.mp root
    obtain ⟨folder,_,listed⟩ := List.mem_flatMap.mp inner
    rw [folderFiles,List.map_map] at listed
    obtain ⟨_,_,same⟩ := List.mem_map.mp listed
    cases congrArg Path.folder same

private theorem nodup_searchedFiles (defaultTenant : Text) (directory : Directory) (tenantId courseCode : Text) :
    ((searchedFiles defaultTenant directory tenantId courseCode).map File.path).Nodup := by
  have files := nodup_paths defaultTenant directory
  rw [searchedFiles]
  refine List.Nodup.sublist (List.filter_sublist.map File.path) ?_
  have one (scope : Text) : (((knowledgeFiles defaultTenant directory).filter
      (fun file => file.tenantId == scope)).map File.path).Nodup :=
    files.sublist (List.filter_sublist.map _)
  unfold wantedScopes
  split_ifs with single
  · simpa using one tenantId
  · rw [List.flatMap_cons,List.flatMap_singleton,List.map_append]
    refine (one tenantId).append (one platformTenant) (fun path left right => ?_)
    obtain ⟨first,here,rfl⟩ := List.mem_map.mp left
    obtain ⟨second,there,same⟩ := List.mem_map.mp right
    obtain ⟨inside,own⟩ := List.mem_filter.mp here
    obtain ⟨inside',platform⟩ := List.mem_filter.mp there
    rw [List.inj_on_of_nodup_map files inside' inside same] at platform
    exact single (Or.inr ((beq_iff_eq.mp own).symm.trans (beq_iff_eq.mp platform)))

/-- Every child a search can return is resolved to the parent of its own section exactly
when no two sections of the searched files have one parent id. -/
theorem children_resolve_iff {defaultTenant : Text} {directory : Directory} {stores : Stores}
    (built : buildStores tools defaultTenant directory = .ok stores) (tenantId courseCode : Text) :
    (∀ child ∈ iterTenantDocuments stores tenantId courseCode, child.chunkRole = .child →
        Resolves (iterTenantDocuments stores tenantId courseCode) child) ↔
      ((searchedFiles defaultTenant directory tenantId courseCode).flatMap
        (sectionKeys tools)).Nodup := by
  rw [iter_built tools built,← parent_ids]
  exact (family_of_files tools (nodup_searchedFiles _ _ _ _)).resolves_iff

end

/-! Two sections under one heading. -/

def nestedText : String := "## 课程\n### 上\n甲\n### 下\n乙"

/-- A header splitter for texts without headings and for the nested one. -/
def nestedTools : Tools where
  sha256 _ := "digest".toList
  digest_ne _ := by decide
  splitHeaders text :=
    if text = nestedText.toList then
      [⟨none,some "课程".toList,some "上".toList,"甲".toList⟩,
        ⟨none,some "课程".toList,some "下".toList,"乙".toList⟩]
    else [⟨none,none,none,text⟩]
  splitFallback text := [text]
  splitChildren text := [text]

def oneFile (name content : String) : Directory where
  files := (∅ : Dict Text Bytes).set name.toList content.toUTF8.data.toList
  folders := ∅

/-- Both children of a file without headings are resolved to its parent. -/
theorem children_resolve_iff_plain :
    (iterTenantDocuments (((buildStores nestedTools "demo".toList
        (oneFile "a.md" "x")).toOption).getD ∅) "demo".toList []).countP
          (fun document => document.chunkRole = .child) = 2 ∧
      ∀ child ∈ iterTenantDocuments
          (((buildStores nestedTools "demo".toList (oneFile "a.md" "x")).toOption).getD ∅)
          "demo".toList [], child.chunkRole = .child →
        Resolves (iterTenantDocuments
          (((buildStores nestedTools "demo".toList (oneFile "a.md" "x")).toOption).getD ∅)
          "demo".toList []) child :=
  ⟨by decide +kernel,(@children_resolve_iff nestedTools "demo".toList (oneFile "a.md" "x") _ rfl
    "demo".toList []).mpr (by decide +kernel)⟩

/-- The first of two nested sections is resolved to the second. -/
theorem child_resolves_to_sibling :
    ¬∀ (tools : Tools) (defaultTenant : Text) (directory : Directory) (stores : Stores),
      buildStores tools defaultTenant directory = .ok stores → ∀ tenantId courseCode : Text,
        ∀ child ∈ iterTenantDocuments stores tenantId courseCode, child.chunkRole = .child →
          Resolves (iterTenantDocuments stores tenantId courseCode) child := by
  intro law
  have built : buildStores nestedTools "demo".toList (oneFile "a.md" nestedText) =
    .ok (((buildStores nestedTools "demo".toList (oneFile "a.md" nestedText)).toOption).getD ∅) := rfl
  have all := law nestedTools "demo".toList (oneFile "a.md" nestedText) _ built "demo".toList []
  rw [iter_built nestedTools built] at all
  have keys := (family_of_files nestedTools (nodup_searchedFiles _ _ _ _)).resolves_iff.mp all
  rw [parent_ids] at keys
  revert keys
  decide +kernel

end CustomerService.Knowledge
