import CustomerService.KnowledgeIngest
import CustomerService.ParentChild

/-! When an incremental ingest gives what a full build gives: source by source, as long as
no tenant has two files of one name. -/
namespace CustomerService.Knowledge

open Text

/-! The digests of documents. -/

def hashes (documents : List Document) : Dict Text Text :=
  (∅ : Dict Text Text).update (documents.map (fun document => (document.source,document.contentHash)))

theorem mem_hashes {documents : List Document} {source digest : Text}
    (found : (hashes documents).get? source = some digest) :
    ∃ document ∈ documents, document.source = source ∧ document.contentHash = digest := by
  rcases Dict.get?_update_mem _ _ found with listed | nothing
  · obtain ⟨document,member,same⟩ := List.mem_map.mp listed
    cases same
    exact ⟨document,member,rfl,rfl⟩
  · cases nothing

theorem hashes_present {documents : List Document} {document : Document}
    (member : document ∈ documents) : (hashes documents).get? document.source ≠ none :=
  Dict.get?_update_present _ _ (Or.inl (List.mem_map_of_mem (List.mem_map_of_mem member)))

def Uniform (documents : List Document) : Prop :=
  ∀ first ∈ documents, ∀ second ∈ documents, first.source = second.source →
    first.contentHash = second.contentHash

private theorem hashes_of_uniform {documents : List Document} (uniform : Uniform documents)
    {document : Document} (member : document ∈ documents) :
    (hashes documents).get? document.source = some document.contentHash := by
  obtain ⟨digest,found⟩ := Option.ne_none_iff_exists'.mp (hashes_present member)
  obtain ⟨other,inside,same,rfl⟩ := mem_hashes found
  rw [found,uniform other inside document member same]

theorem hashes_none {documents : List Document} {source : Text} :
    (hashes documents).get? source = none ↔ withKey Document.source source documents = [] := by
  constructor
  · intro missing
    by_contra some'
    obtain ⟨document,member⟩ := List.exists_mem_of_ne_nil _ some'
    obtain ⟨inside,same⟩ := List.mem_filter.mp member
    exact hashes_present inside (beq_iff_eq.mp same ▸ missing)
  · intro nothing
    by_contra found
    obtain ⟨digest,known⟩ := Option.ne_none_iff_exists'.mp found
    obtain ⟨document,inside,same,_⟩ := mem_hashes known
    have listed : document ∈ withKey Document.source source documents :=
      List.mem_filter.mpr ⟨inside,beq_iff_eq.mpr same⟩
    rw [nothing] at listed
    cases listed

/-! The plan, source by source. -/

section
variable (live : Dict Text Text) (wanted : List Document)

/-- The source has a wanted digest that is not the live one. -/
def Changed (source : Text) : Prop :=
  ∃ digest, (wantedHashes wanted).get? source = some digest ∧ isChanged live (source,digest) = true

theorem mem_changed {source : Text} :
    source ∈ ((wantedHashes wanted).entries.filter (isChanged live)).map Prod.fst ↔
      Changed live wanted source := by
  constructor
  · intro listed
    obtain ⟨entry,member,rfl⟩ := List.mem_map.mp listed
    obtain ⟨inside,changed⟩ := List.mem_filter.mp member
    exact ⟨entry.2,(Dict.get?_eq_some _ _ _).mpr inside,changed⟩
  · rintro ⟨digest,found,changed⟩
    exact List.mem_map.mpr ⟨(source,digest),
      List.mem_filter.mpr ⟨(Dict.get?_eq_some _ _ _).mp found,changed⟩,rfl⟩

private theorem withKey_withKey (key : Document → Text) (documents : List Document) (first second : Text) :
    withKey key second (withKey key first documents) =
      if second = first then withKey key first documents else [] := by
  unfold withKey
  rw [List.filter_filter]
  split_ifs with same
  · exact List.filter_congr (fun document _ => by simp [same])
  · refine List.filter_eq_nil_iff.mpr (fun document _ both => same ?_)
    rw [Bool.and_eq_true,beq_iff_eq,beq_iff_eq] at both
    exact both.1.symm.trans both.2

private theorem withKey_flatMap (key : Document → Text) (documents : List Document) {sources : List Text}
    (once : sources.Nodup) (source : Text) :
    withKey key source (sources.flatMap (fun other => withKey key other documents)) =
      if source ∈ sources then withKey key source documents else [] := by
  induction sources with
  | nil => rfl
  | cons first rest ih =>
    obtain ⟨fresh,once⟩ := List.nodup_cons.mp once
    have tail := ih once
    have here := withKey_withKey key documents first source
    unfold withKey at tail here ⊢
    rw [List.flatMap_cons,List.filter_append,tail,here]
    by_cases same : source = first
    · subst same
      simp [fresh]
    · simp [same]

theorem newDocs_eq : (planTenant live wanted).newDocs =
    (((wantedHashes wanted).entries.filter (isChanged live)).map Prod.fst).flatMap
      (fun source => withKey Document.source source wanted) := by
  simp only [planTenant,getD_collect,List.flatMap_map]

theorem withKey_newDocs_changed {source : Text} (changed : Changed live wanted source) :
    withKey Document.source source (planTenant live wanted).newDocs =
      withKey Document.source source wanted := by
  rw [newDocs_eq,withKey_flatMap _ _ ((wantedHashes wanted).distinct.sublist
    (List.filter_sublist.map _)),if_pos ((mem_changed live wanted).mpr changed)]

private theorem withKey_newDocs_same {source : Text} (same : ¬Changed live wanted source) :
    withKey Document.source source (planTenant live wanted).newDocs = [] := by
  rw [newDocs_eq,withKey_flatMap _ _ ((wantedHashes wanted).distinct.sublist
    (List.filter_sublist.map _)),if_neg (fun listed => same ((mem_changed live wanted).mp listed))]

theorem mem_retireSources {source : Text} : source ∈ (planTenant live wanted).retireSources ↔
    live.get? source ≠ none ∧
      (Changed live wanted source ∨ (wantedHashes wanted).get? source = none) := by
  have present : source ∈ live.keys ↔ live.get? source ≠ none := by
    rw [Ne,Dict.get?_eq_none,not_not]
  rw [planTenant,List.mem_append,List.mem_filter,mem_changed,List.contains_iff_mem,List.mem_filter,
    Dict.get?_eq_none,present]
  simp only [Bool.not_eq_true',List.contains_eq_mem,decide_eq_false_iff_not]
  tauto

end

/-! The live documents of a source. -/

def face (document : Document) : Text × Text × Int × Text :=
  (document.source,document.contentHash,document.chunk,document.pageContent)

def liveFaces (source : Text) (store : Store) : List (Text × Text × Int × Text) :=
  (withKey Document.source source (iterStoreDocuments store)).map face

theorem iter_softDelete (sources : List Text) (keepHash : Dict Text Text) (store : Store) :
    iterStoreDocuments (softDeleteStale sources keepHash store) =
      (iterStoreDocuments store).filter (fun document => !isStale sources keepHash document) := by
  induction store with
  | nil => rfl
  | cons document rest ih =>
    simp only [softDeleteStale,iterStoreDocuments,List.map_cons,retire] at ih ⊢
    cases stale : isStale sources keepHash document with
    | true =>
      rw [if_pos rfl,List.filter_cons_of_neg (by simp),ih]
      cases document.deleted <;> simp [stale]
    | false =>
      rw [if_neg Bool.false_ne_true]
      cases alive : document.deleted with
      | true =>
        rw [List.filter_cons_of_neg (by simp [alive]),List.filter_cons_of_neg (by simp [alive]),ih]
      | false =>
        rw [List.filter_cons_of_pos (by simp [alive]),List.filter_cons_of_pos (by simp [alive]),
          List.filter_cons_of_pos (by simp [stale]),ih]

private theorem liveFaces_softDelete (sources : List Text) (keepHash : Dict Text Text) (store : Store)
    (source : Text) : liveFaces source (softDeleteStale sources keepHash store) =
      ((withKey Document.source source (iterStoreDocuments store)).filter (fun document =>
        !isStale sources keepHash document)).map face := by
  rw [liveFaces,iter_softDelete,withKey,withKey,List.filter_comm]

theorem iterStoreDocuments_append (first second : Store) :
    iterStoreDocuments (first ++ second) = iterStoreDocuments first ++ iterStoreDocuments second :=
  List.filter_append first second

private theorem withKey_append (key : Document → Text) (value : Text) (first second : List Document) :
    withKey key value (first ++ second) = withKey key value first ++ withKey key value second :=
  List.filter_append first second

/-! Documents in which a source comes from one file. -/

section
variable (tools : Tools) (files : File → Prop)

private theorem faces_chunkSections {first second : File} (name : first.path.name = second.path.name)
    (bytes : first.bytes = second.bytes) (place childIndex : Nat) (parts : List Section) :
    (chunkSections tools first place childIndex parts).map face =
      (chunkSections tools second place childIndex parts).map face := by
  induction parts generalizing place childIndex with
  | nil => rfl
  | cons part rest ih =>
    rw [chunkSections,chunkSections,List.map_append,List.map_append,ih]
    congr 1
    simp [sectionDocuments,face,baseDocument,childDocument,name,bytes]

private theorem faces_fileDocuments {first second : File} (name : first.path.name = second.path.name)
    (bytes : first.bytes = second.bytes) :
    (fileDocuments tools first).map face = (fileDocuments tools second).map face := by
  rw [fileDocuments,fileDocuments,buildParentChildDocuments,buildParentChildDocuments,bytes]
  cases decode second.bytes with
  | none => rfl
  | some text => exact faces_chunkSections tools name bytes 0 0 _

/-- The documents of each source are those of one of the files. -/
def FromFiles (documents : List Document) : Prop :=
  ∀ source, withKey Document.source source documents = [] ∨ ∃ file, files file ∧
    file.path.name = source ∧
      (withKey Document.source source documents).map face = (fileDocuments tools file).map face

/-- The files have names, and no two of them have one digest. -/
structure Distinguished : Prop where
  named : ∀ file, files file → file.path.name ≠ []
  digests : ∀ first second, files first → files second →
    tools.sha256 first.bytes = tools.sha256 second.bytes → first.bytes = second.bytes

variable {tools files}

theorem mem_withKey {key : Document → Text} {value : Text} {documents : List Document}
    {document : Document} : document ∈ withKey key value documents ↔
      document ∈ documents ∧ key document = value := by
  rw [withKey,List.mem_filter,beq_iff_eq]

theorem hash_of_file {file : File} {document : Document} (member : document ∈ fileDocuments tools file) :
    document.source = file.path.name ∧ document.contentHash = tools.sha256 file.bytes := by
  obtain ⟨item,_,index,built,_⟩ := mem_fileDocuments tools member
  rcases mem_sectionDocuments tools built with rfl | ⟨body,kind,place,rfl⟩
  · exact ⟨rfl,rfl⟩
  · exact ⟨rfl,rfl⟩

theorem FromFiles.file {documents : List Document} (from' : FromFiles tools files documents)
    {document : Document} (member : document ∈ documents) :
    ∃ file, files file ∧ file.path.name = document.source ∧
      document.contentHash = tools.sha256 file.bytes ∧
      (withKey Document.source document.source documents).map face =
        (fileDocuments tools file).map face := by
  have listed : document ∈ withKey Document.source document.source documents :=
    mem_withKey.mpr ⟨member,rfl⟩
  rcases from' document.source with nothing | ⟨file,inside,name,same⟩
  · rw [nothing] at listed
    cases listed
  · have shown : face document ∈ (fileDocuments tools file).map face :=
      same ▸ List.mem_map_of_mem listed
    obtain ⟨other,here,equal⟩ := List.mem_map.mp shown
    have digest := congrArg (·.2.1) equal
    refine ⟨file,inside,name,?_,same⟩
    exact digest.symm.trans (hash_of_file here).2

theorem FromFiles.uniform {documents : List Document} (from' : FromFiles tools files documents) :
    Uniform documents := by
  intro first one second two same
  obtain ⟨file,_,_,digest,faces⟩ := from'.file one
  obtain ⟨file',_,_,digest',faces'⟩ := from'.file two
  have listed : first ∈ withKey Document.source second.source documents :=
    mem_withKey.mpr ⟨one,same⟩
  have shown : face first ∈ (fileDocuments tools file').map face :=
    faces' ▸ List.mem_map_of_mem listed
  obtain ⟨other,here,equal⟩ := List.mem_map.mp shown
  rw [digest',← (hash_of_file here).2]
  exact (congrArg (·.2.1) equal).symm

theorem FromFiles.source_ne {documents : List Document} (from' : FromFiles tools files documents)
    (apart : Distinguished tools files) {document : Document} (member : document ∈ documents) :
    document.source ≠ [] := by
  obtain ⟨file,inside,name,_,_⟩ := from'.file member
  exact name ▸ apart.named file inside

private theorem faces_of_same_digest (apart : Distinguished tools files) {first second : List Document}
    (one : FromFiles tools files first) (two : FromFiles tools files second) {left right : Document}
    (member : left ∈ first) (member' : right ∈ second) (source : left.source = right.source)
    (digest : left.contentHash = right.contentHash) :
    (withKey Document.source left.source first).map face =
      (withKey Document.source left.source second).map face := by
  obtain ⟨file,inside,name,hash,faces⟩ := one.file member
  obtain ⟨file',inside',name',hash',faces'⟩ := two.file member'
  have bytes := apart.digests file file' inside inside' (hash.symm.trans (digest.trans hash'))
  rw [faces,faces_fileDocuments tools (name.trans (source.trans name'.symm)) bytes,← faces',source]

private theorem liveSourceHashes_eq (apart : Distinguished tools files) {store : Store}
    (clean : FromFiles tools files (iterStoreDocuments store)) :
    liveSourceHashes store = hashes (iterStoreDocuments store) := by
  rw [liveSourceHashes,hashes,List.filter_eq_self.mpr]
  exact fun document member => decide_eq_true (clean.source_ne apart member)

section
variable (apart : Distinguished tools files) {store : Store} {wanted : List Document}
  (clean : FromFiles tools files (iterStoreDocuments store))
  (wanted_clean : FromFiles tools files wanted)
include apart clean wanted_clean

private theorem faces_of_unchanged {source : Text} (some' : withKey Document.source source wanted ≠ [])
    (same : ¬Changed (liveSourceHashes store) wanted source) :
    liveFaces source store = (withKey Document.source source wanted).map face := by
  obtain ⟨document,member⟩ := List.exists_mem_of_ne_nil _ some'
  obtain ⟨inside,rfl⟩ := mem_withKey.mp member
  have digest : (wantedHashes wanted).get? document.source = some document.contentHash :=
    hashes_of_uniform wanted_clean.uniform inside
  have live : (hashes (iterStoreDocuments store)).get? document.source =
      some document.contentHash := by
    by_contra other
    refine same ⟨_,digest,?_⟩
    rw [isChanged,liveSourceHashes_eq apart clean]
    simp [other]
  obtain ⟨old,here,source,hash⟩ := mem_hashes live
  have faces := faces_of_same_digest apart clean wanted_clean here inside source hash
  rwa [source] at faces

omit apart wanted_clean in
theorem stale_of_retired {document : Document} (member : document ∈ iterStoreDocuments store)
    (apart : Distinguished tools files)
    (retired : Changed (liveSourceHashes store) wanted document.source ∨
      withKey Document.source document.source wanted = []) :
    isStale (planTenant (liveSourceHashes store) wanted).retireSources (wantedHashes wanted)
      document = true := by
  have live := hashes_of_uniform clean.uniform member
  have listed : document.source ∈ (planTenant (liveSourceHashes store) wanted).retireSources := by
    rw [mem_retireSources,liveSourceHashes_eq apart clean,live]
    refine ⟨Option.some_ne_none _,retired.imp (fun changed => ?_) hashes_none.mpr⟩
    rwa [liveSourceHashes_eq apart clean] at changed
  have alive : document.deleted = false := by
    simpa using (List.mem_filter.mp member).2
  rw [isStale,List.contains_iff_mem.mpr listed,alive]
  simp only [Bool.true_and,Bool.not_false,Bool.not_eq_true']
  rcases retired with ⟨digest,found,changed⟩ | nothing
  · rw [isChanged,liveSourceHashes_eq apart clean,live] at changed
    rw [Dict.getD_of_some found]
    simp at changed ⊢
    exact fun nonempty => changed.resolve_left nonempty
  · have missing : (wantedHashes wanted).get? document.source = none := hashes_none.mpr nothing
    rw [Dict.getD_of_none missing]
    rfl

omit apart clean wanted_clean in
theorem kept_of_not_retired {document : Document}
    (same : ¬Changed (liveSourceHashes store) wanted document.source)
    (some' : withKey Document.source document.source wanted ≠ []) :
    isStale (planTenant (liveSourceHashes store) wanted).retireSources (wantedHashes wanted)
      document = false := by
  have listed : document.source ∉ (planTenant (liveSourceHashes store) wanted).retireSources := by
    rw [mem_retireSources]
    exact fun retired => retired.2.elim same (fun nothing => some' (hashes_none.mp nothing))
  rw [isStale,List.contains_eq_mem,decide_eq_false listed]
  rfl

omit apart clean in
theorem kept_of_new {document : Document} (member : document ∈ wanted) :
    isStale (planTenant (liveSourceHashes store) wanted).retireSources (wantedHashes wanted)
      document = false := by
  have digest : (wantedHashes wanted).get? document.source = some document.contentHash :=
    hashes_of_uniform wanted_clean.uniform member
  obtain ⟨file,_,_,hash,_⟩ := wanted_clean.file member
  have nonempty : document.contentHash ≠ [] := hash ▸ tools.digest_ne file.bytes
  simp [isStale,Dict.getD_of_some digest,nonempty]

private theorem liveFaces_ingested (fresh : ∀ document ∈ wanted, document.deleted = false) (source : Text) :
    liveFaces source (softDeleteStale
        (planTenant (liveSourceHashes store) wanted).retireSources (wantedHashes wanted)
        (store ++ (planTenant (liveSourceHashes store) wanted).newDocs)) =
      (withKey Document.source source wanted).map face := by
  have new : iterStoreDocuments (planTenant (liveSourceHashes store) wanted).newDocs =
      (planTenant (liveSourceHashes store) wanted).newDocs := by
    refine List.filter_eq_self.mpr (fun document member => ?_)
    rw [newDocs_eq] at member
    obtain ⟨_,_,inside⟩ := List.mem_flatMap.mp member
    simp [fresh document (mem_withKey.mp inside).1]
  rw [liveFaces_softDelete,iterStoreDocuments_append,withKey_append,List.filter_append,new]
  have gone (retired : Changed (liveSourceHashes store) wanted source ∨
      withKey Document.source source wanted = []) :
      (withKey Document.source source (iterStoreDocuments store)).filter (fun document =>
        !isStale (planTenant (liveSourceHashes store) wanted).retireSources
          (wantedHashes wanted) document) = [] := by
    refine List.filter_eq_nil_iff.mpr (fun document member => ?_)
    obtain ⟨inside,rfl⟩ := mem_withKey.mp member
    simp [stale_of_retired clean inside apart retired]
  by_cases changed : Changed (liveSourceHashes store) wanted source
  · rw [gone (Or.inl changed),withKey_newDocs_changed _ _ changed,List.nil_append,
      List.filter_eq_self.mpr]
    intro document member
    simp [kept_of_new wanted_clean (mem_withKey.mp member).1]
  · rw [withKey_newDocs_same _ _ changed,List.filter_nil,List.append_nil]
    by_cases some' : withKey Document.source source wanted = []
    · rw [gone (Or.inr some'),some']
    · rw [List.filter_eq_self.mpr]
      · exact faces_of_unchanged apart clean wanted_clean some' changed
      · intro document member
        obtain ⟨_,rfl⟩ := mem_withKey.mp member
        simp [kept_of_not_retired changed some']

end

end

/-! The files of a tenant. -/

/-- No Markdown name is both at the root and in the folder of the default tenant. -/
def NamesApart (defaultTenant : Text) (directory : Directory) : Prop :=
  ∀ name ∈ directory.files.keys, isMarkdown name = true →
    name ∉ (directory.folders.getD defaultTenant ∅).keys

instance instDecidableNamesApart (defaultTenant : Text) (directory : Directory) :
    Decidable (NamesApart defaultTenant directory) :=
  inferInstanceAs (Decidable (∀ name ∈ directory.files.keys, isMarkdown name = true →
    name ∉ (directory.folders.getD defaultTenant ∅).keys))

private theorem mem_markdownFiles {folder : Dict Text Bytes} {entry : Text × Bytes}
    (listed : entry ∈ markdownFiles folder) :
    entry ∈ folder.entries ∧ isMarkdown entry.1 = true := by
  rw [markdownFiles,sortedByName,(List.perm_insertionSort _ _).mem_iff] at listed
  exact List.mem_filter.mp listed

theorem mem_knowledgeFiles {defaultTenant : Text} {directory : Directory} {file : File}
    (listed : file ∈ knowledgeFiles defaultTenant directory) :
    isMarkdown file.path.name = true ∧
      (file.tenantId = defaultTenant ∧ directory.files.get? file.path.name = some file.bytes ∧
          file.path.folder = none ∨
        file.path.folder = some file.tenantId ∧ ∃ folder,
          directory.folders.get? file.tenantId = some folder ∧
          folder.get? file.path.name = some file.bytes) := by
  rcases List.mem_append.mp listed with root | inner
  · obtain ⟨entry,here,rfl⟩ := List.mem_map.mp root
    obtain ⟨inside,markdown⟩ := mem_markdownFiles here
    exact ⟨markdown,Or.inl ⟨rfl,(Dict.get?_eq_some _ _ _).mpr inside,rfl⟩⟩
  · obtain ⟨folder,found,here⟩ := List.mem_flatMap.mp inner
    obtain ⟨entry,within,rfl⟩ := List.mem_map.mp here
    obtain ⟨inside,markdown⟩ := mem_markdownFiles within
    rw [sortedByName,(List.perm_insertionSort _ _).mem_iff] at found
    exact ⟨markdown,Or.inr ⟨rfl,folder.2,(Dict.get?_eq_some _ _ _).mpr found,
      (Dict.get?_eq_some _ _ _).mpr inside⟩⟩

private theorem file_unique {defaultTenant : Text} {directory : Directory}
    (apart : NamesApart defaultTenant directory) {first second : File}
    (one : first ∈ knowledgeFiles defaultTenant directory)
    (two : second ∈ knowledgeFiles defaultTenant directory)
    (tenant : first.tenantId = second.tenantId) (name : first.path.name = second.path.name) :
    first = second := by
  have mixed (file other : File) (root : file.tenantId = defaultTenant)
      (found : directory.files.get? file.path.name = some file.bytes)
      (markdown : isMarkdown file.path.name = true) {folder : Dict Text Bytes}
      (tenant : file.tenantId = other.tenantId) (name : file.path.name = other.path.name)
      (inside : directory.folders.get? other.tenantId = some folder)
      (there : folder.get? other.path.name = some other.bytes) : False := by
    refine apart file.path.name ((Dict.get?_isSome _ _).mp (by rw [found]; rfl)) markdown ?_
    rw [← root,tenant,Dict.getD_of_some inside,name,← Dict.get?_isSome,there]
    rfl
  obtain ⟨⟨folder,base⟩,tenantId,bytes⟩ := first
  obtain ⟨⟨folder',base'⟩,tenantId',bytes'⟩ := second
  cases tenant
  cases name
  obtain ⟨markdown,⟨root,found,none'⟩ | ⟨own,part,inside,found⟩⟩ := mem_knowledgeFiles one
  · obtain ⟨_,⟨_,found',none''⟩ | ⟨_,part,inside,there⟩⟩ := mem_knowledgeFiles two
    · rw [found] at found'
      cases found'
      cases none'
      cases none''
      rfl
    · exact (mixed ⟨⟨folder,base⟩,tenantId,bytes⟩ ⟨⟨folder',base⟩,tenantId,bytes'⟩ root found
        markdown rfl rfl inside there).elim
  · obtain ⟨markdown',⟨root,found',_⟩ | ⟨own',part',inside',found'⟩⟩ := mem_knowledgeFiles two
    · exact (mixed ⟨⟨folder',base⟩,tenantId,bytes'⟩ ⟨⟨folder,base⟩,tenantId,bytes⟩ root found'
        markdown' rfl rfl inside found).elim
    · dsimp only at inside inside' found found' own own'
      rw [inside] at inside'
      cases inside'
      rw [found] at found'
      cases found'
      rw [own,own']

/-! The ingest and the build. -/

section
variable (tools : Tools) (defaultTenant : Text)

def directoryDocuments (directory : Directory) : List Document :=
  (knowledgeFiles defaultTenant directory).flatMap (fileDocuments tools)

def Occurs (found : List Directory) (file : File) : Prop :=
  ∃ directory ∈ found, file ∈ knowledgeFiles defaultTenant directory

theorem fresh_directoryDocuments (directory : Directory) :
    ∀ document ∈ directoryDocuments tools defaultTenant directory, document.deleted = false := by
  intro document member
  obtain ⟨file,_,here⟩ := List.mem_flatMap.mp member
  exact (file_of_document tools here).2.2

private theorem fromFiles_directory {found : List Directory} {directory : Directory}
    (inside : directory ∈ found) (apart : NamesApart defaultTenant directory) (tenantId : Text) :
    FromFiles tools (Occurs defaultTenant found)
      (withKey Document.tenantId tenantId (directoryDocuments tools defaultTenant directory)) := by
  intro source
  have narrowed : withKey Document.source source (withKey Document.tenantId tenantId
      (directoryDocuments tools defaultTenant directory)) =
      ((knowledgeFiles defaultTenant directory).filter (fun file =>
        file.path.name == source && file.tenantId == tenantId)).flatMap (fileDocuments tools) := by
    rw [withKey,withKey,List.filter_filter,directoryDocuments]
    refine filter_flatMap_of_same (fun file _ document member => ?_)
    rw [(hash_of_file member).1,(file_of_document tools member).1]
  have once := (List.Nodup.of_map _ (nodup_paths defaultTenant directory)).filter
    (fun file => file.path.name == source && file.tenantId == tenantId)
  rw [narrowed]
  cases listed : (knowledgeFiles defaultTenant directory).filter (fun file =>
      file.path.name == source && file.tenantId == tenantId) with
  | nil => exact Or.inl rfl
  | cons file rest =>
    have chosen {other : File} (member : other ∈ file::rest) :
        other ∈ knowledgeFiles defaultTenant directory ∧ other.path.name = source ∧
          other.tenantId = tenantId := by
      rw [← listed] at member
      simpa using List.mem_filter.mp member
    obtain ⟨member,name,tenant⟩ := chosen List.mem_cons_self
    have single : rest = [] := by
      refine List.eq_nil_iff_forall_not_mem.mpr (fun other later => ?_)
      obtain ⟨member',name',tenant'⟩ := chosen (List.mem_cons_of_mem _ later)
      rw [listed] at once
      refine (List.nodup_cons.mp once).1 ?_
      rwa [file_unique apart member member' (tenant.trans tenant'.symm) (name.trans name'.symm)]
    refine Or.inr ⟨file,⟨directory,inside,member⟩,name,?_⟩
    rw [single,List.flatMap_singleton]

/-- The live documents of every tenant are those of the directory, source by source. -/
def Matches (documents : List Document) (stores : Stores) : Prop :=
  ∀ tenantId source, liveFaces source (stores.getD tenantId []) =
    (withKey Document.source source (withKey Document.tenantId tenantId documents)).map face

/-- The documents in use of every store come from files, one for a source. -/
def CleanStores (files : File → Prop) (stores : Stores) : Prop :=
  ∀ tenantId, FromFiles tools files (iterStoreDocuments (stores.getD tenantId []))

private theorem cleanStores_of_matches {files : File → Prop} {documents : List Document} {stores : Stores}
    (same : Matches documents stores) (clean : ∀ tenantId,
      FromFiles tools files (withKey Document.tenantId tenantId documents)) :
    CleanStores tools files stores := by
  intro tenantId source
  have faces := same tenantId source
  rw [liveFaces] at faces
  refine (clean tenantId source).imp (fun nothing => ?_) (fun ⟨file,inside,name,built⟩ =>
    ⟨file,inside,name,faces.trans built⟩)
  rw [nothing,List.map_nil] at faces
  exact List.map_eq_nil_iff.mp faces

private theorem matches_build {documents : List Document}
    (fresh : ∀ document ∈ documents, document.deleted = false) :
    Matches documents (storesFromGroups (groupDocuments documents)) := by
  intro tenantId source
  rw [getD_storesFromGroups,liveFaces,iterStoreDocuments,List.filter_eq_self.mpr]
  intro document member
  simp [fresh document (mem_withKey.mp member).1]

private theorem working_ingest (documents : List Document) (stores : Stores) (lexical : LexicalCache)
    (tenantId : Text) :
    (ingestTenants (groupDocuments documents) (fun _ => false)
      (ingestOrder stores (groupDocuments documents)) ⟨stores,lexical,stores,0,0⟩).1.working.getD
        tenantId [] = ingested (groupDocuments documents) stores tenantId := by
  have once := nodup_ingestOrder stores (groupDocuments documents)
  have all : (ingestOrder stores (groupDocuments documents)).takeWhile (fun tenantId =>
      !failsAt (groupDocuments documents) stores (fun _ => false) tenantId) =
      ingestOrder stores (groupDocuments documents) := by
    refine List.takeWhile_eq_self_iff.mpr (fun tenantId _ => ?_)
    simp [failsAt]
  rw [ingestTenants_eq _ _ once]
  dsimp only
  rw [all,working_rounds _ once]
  split_ifs with listed
  · rfl
  · rw [mem_ingestOrder,not_or] at listed
    have nothing := Dict.getD_of_none ((Dict.get?_eq_none _ _).mpr listed.1) []
    have unwanted := Dict.getD_of_none ((Dict.get?_eq_none _ _).mpr listed.2) []
    refine (ingested_of_empty ?_).symm
    rw [planFor,nothing,unwanted]
    rfl

private theorem matches_rounds {files : File → Prop} (apart : Distinguished tools files) {stores : Stores}
    (clean : CleanStores tools files stores) {documents : List Document}
    (fresh : ∀ document ∈ documents, document.deleted = false)
    (wanted_clean : ∀ tenantId, FromFiles tools files (withKey Document.tenantId tenantId documents))
    {result : Stores} (made : ∀ tenantId, result.getD tenantId [] =
      ingested (groupDocuments documents) stores tenantId) : Matches documents result := by
  intro tenantId source
  have group : (groupDocuments documents).getD tenantId [] =
      withKey Document.tenantId tenantId documents := getD_collect _ _ _
  rw [made]
  dsimp only [ingested,planFor]
  rw [group]
  exact liveFaces_ingested apart (clean tenantId) (wanted_clean tenantId)
    (fun document member => fresh document (mem_withKey.mp member).1) source

theorem load_of_build {directory : Directory} {stores : Stores}
    (built : buildStores tools defaultTenant directory = .ok stores) :
    loadKnowledgeDocuments tools defaultTenant directory =
        .ok (directoryDocuments tools defaultTenant directory) ∧
      directoryDocuments tools defaultTenant directory ≠ [] ∧
      stores = storesFromGroups (groupDocuments (directoryDocuments tools defaultTenant directory)) := by
  unfold buildStores at built
  cases loaded : loadKnowledgeDocuments tools defaultTenant directory with
  | error failure => simp [loaded] at built
  | ok documents =>
    rw [loaded] at built
    dsimp only at built
    split_ifs at built with nothing
    have same := loadFiles_ok tools loaded
    subst same
    exact ⟨rfl,nothing,(Except.ok.inj built).symm⟩

theorem ingest_rejected {directory : Directory} {failure : Failure}
    (built : buildStores tools defaultTenant directory = .error failure) (host : Host)
    (persist rebuild : Bool) (raises : Text → Bool) :
    (ingestIndexes tools defaultTenant host persist rebuild directory raises).1 = host := by
  unfold ingestIndexes
  split_ifs
  · simp only [buildFaissIndex,built]
  · unfold buildStores at built
    cases loaded : loadKnowledgeDocuments tools defaultTenant directory with
    | error failure => rfl
    | ok documents =>
      rw [loaded] at built
      dsimp only at built ⊢
      split_ifs at built ⊢
      rfl

theorem ingest_published {directory : Directory} {stores : Stores}
    (built : buildStores tools defaultTenant directory = .ok stores) (host : Host)
    (persist rebuild : Bool) :
    ∃ result changed,
      (ingestIndexes tools defaultTenant host persist rebuild directory (fun _ => false)).1 =
        host.publish result persist changed ∧
      (result = stores ∨ ∀ tenantId, result.getD tenantId [] =
        ingested (groupDocuments (directoryDocuments tools defaultTenant directory)) host.existing
          tenantId) := by
  obtain ⟨loaded,nonempty,_⟩ := load_of_build tools defaultTenant built
  unfold ingestIndexes
  split_ifs with full
  · refine ⟨stores,true,?_,Or.inl rfl⟩
    simp [buildFaissIndex,built]
  · rw [loaded]
    dsimp only
    rw [if_neg nonempty]
    have passes : (ingestTenants (groupDocuments (directoryDocuments tools defaultTenant directory))
        (fun _ => false) (ingestOrder host.existing (groupDocuments
          (directoryDocuments tools defaultTenant directory)))
        ⟨host.existing,host.memory.lexical,host.existing,0,0⟩).2 = false := by
      rw [ingestTenants_eq _ _ (nodup_ingestOrder _ _)]
      simp [failsAt]
    rw [passes,if_neg (by decide)]
    exact ⟨_,_,rfl,Or.inr (working_ingest _ _ _)⟩

theorem ingest_accepted {found : List Directory}
    (distinguished : Distinguished tools (Occurs defaultTenant found)) {directory : Directory}
    (inside : directory ∈ found) (apart : NamesApart defaultTenant directory) {stores : Stores}
    (built : buildStores tools defaultTenant directory = .ok stores) {host : Host}
    (clean : CleanStores tools (Occurs defaultTenant found) host.existing) (persist rebuild : Bool) :
    ∃ result changed,
      (ingestIndexes tools defaultTenant host persist rebuild directory (fun _ => false)).1 =
        host.publish result persist changed ∧
      Matches (directoryDocuments tools defaultTenant directory) result := by
  have fresh := fresh_directoryDocuments tools defaultTenant directory
  have wanted_clean := fromFiles_directory tools defaultTenant inside apart
  obtain ⟨result,changed,published,made⟩ :=
    ingest_published tools defaultTenant built host persist rebuild
  refine ⟨result,changed,published,?_⟩
  rcases made with rfl | made
  · rw [(load_of_build tools defaultTenant built).2.2]
    exact matches_build fresh
  · exact matches_rounds tools distinguished clean fresh wanted_clean made

/-! Runs. -/

theorem cleanStores_empty (files : File → Prop) : CleanStores tools files ∅ :=
  fun _ _ => Or.inl rfl

theorem clean_run {found : List Directory}
    (distinguished : Distinguished tools (Occurs defaultTenant found))
    {events : List (Nat × Action)} (inside : contents events ⊆ found)
    (apart : ∀ directory ∈ found, NamesApart defaultTenant directory) :
    (World.run tools defaultTenant events).Holds (CleanStores tools (Occurs defaultTenant found))
      (fun _ _ => True) := by
  refine World.holds_run events (fun event listed host clean => ?_)
  obtain ⟨worker,action⟩ := event
  cases action with
  | ingest persist rebuild directory =>
    have member : directory ∈ found :=
      inside (List.mem_filterMap.mpr ⟨_,listed,rfl⟩)
    cases built : buildStores tools defaultTenant directory with
    | error failure =>
      rw [Host.act,ingest_rejected tools defaultTenant built]
      exact clean
    | ok stores =>
      obtain ⟨result,changed,published,same⟩ := ingest_accepted tools defaultTenant distinguished
        member (apart directory member) built (clean.existing (cleanStores_empty tools _))
          persist rebuild
      rw [Host.act,published]
      exact clean.publish (cleanStores_of_matches tools same
        (fromFiles_directory tools defaultTenant member (apart directory member))) persist changed
  | load => exact clean.load
  | search scope => exact (clean.bm25Index (fun _ _ _ _ _ _ _ => trivial) scope).1
  | restart => exact clean.restart

private theorem perm_of_withKey {first second : List Document}
    (same : ∀ source, (withKey Document.source source first).map face =
      (withKey Document.source source second).map face) :
    (first.map face).Perm (second.map face) := by
  have narrowed (shown : Text × Text × Int × Text) (documents : List Document) :
      (documents.map face).count shown =
        ((withKey Document.source shown.1 documents).map face).count shown := by
    rw [List.count_eq_countP,List.count_eq_countP,List.countP_map,List.countP_map,withKey,
      List.countP_filter]
    refine List.countP_congr (fun document _ => ?_)
    simp only [Function.comp_apply,beq_iff_eq,Bool.and_eq_true]
    exact ⟨fun equal => ⟨equal,congrArg Prod.fst equal⟩,And.left⟩
  rw [List.perm_iff_count]
  intro shown
  rw [narrowed shown first,narrowed shown second,same]

/-- The live documents of every tenant are those of the other map, in some order. -/
def SameDocuments (indexes stores : Stores) : Prop :=
  ∀ tenantId, ((iterStoreDocuments (indexes.getD tenantId [])).map face).Perm
    ((iterStoreDocuments (stores.getD tenantId [])).map face)

/-- In a run over contents whose names are apart, every ingest that a build accepts leaves
the documents that the build gives. -/
theorem ingest_matches_rebuild (events : List (Nat × Action)) (worker : Nat) (persist rebuild : Bool)
    (directory : Directory)
    (apart : ∀ found ∈ contents (events ++ [(worker,.ingest persist rebuild directory)]),
      NamesApart defaultTenant found)
    (digests : ∀ first second,
      Occurs defaultTenant (contents (events ++ [(worker,.ingest persist rebuild directory)])) first →
      Occurs defaultTenant (contents (events ++ [(worker,.ingest persist rebuild directory)])) second →
      tools.sha256 first.bytes = tools.sha256 second.bytes → first.bytes = second.bytes)
    {stores : Stores} (built : buildStores tools defaultTenant directory = .ok stores) :
    ∃ indexes, ((World.run tools defaultTenant
        (events ++ [(worker,.ingest persist rebuild directory)])).memories worker).indexes =
        some indexes ∧ SameDocuments indexes stores := by
  have distinguished : Distinguished tools (Occurs defaultTenant
      (contents (events ++ [(worker,.ingest persist rebuild directory)]))) := by
    refine ⟨fun file ⟨_,_,listed⟩ nothing => ?_,digests⟩
    have markdown := (mem_knowledgeFiles listed).1
    rw [nothing] at markdown
    cases markdown
  have split : contents (events ++ [(worker,.ingest persist rebuild directory)]) =
      contents events ++ [directory] := by
    simp [contents]
  have inside : directory ∈ contents (events ++ [(worker,.ingest persist rebuild directory)]) := by
    rw [split]
    exact List.mem_append_right _ (List.mem_singleton_self _)
  have clean := clean_run tools defaultTenant distinguished
    (split ▸ List.subset_append_left _ _) apart worker
  obtain ⟨result,changed,published,same⟩ := ingest_accepted tools defaultTenant distinguished
    inside (apart directory inside) built (clean.existing (cleanStores_empty tools _))
      persist rebuild
  refine ⟨result,?_,fun tenantId => perm_of_withKey (fun source => ?_)⟩
  · rw [World.run,Transition.run_append]
    simp only [Transition.run,List.foldl_cons,List.foldl_nil,World.step,Host.act]
    unfold World.run Transition.run at published
    rw [published]
    cases persist <;> cases changed <;> simp [World.put,Host.publish,Host.install,Host.persist]
  · have fresh := fresh_directoryDocuments tools defaultTenant directory
    rw [(load_of_build tools defaultTenant built).2.2]
    exact (same tenantId source).trans (matches_build fresh tenantId source).symm

end

/-! Runs over small directories. -/

/-- Plain files without headings, and a digest that spells the bytes out. -/
def plainTools : Tools where
  sha256 bytes := '#'::bytes.map (fun byte => Char.ofNat byte.toNat)
  digest_ne _ := List.cons_ne_nil _ _
  splitHeaders text := [⟨none,none,none,text⟩]
  splitFallback text := [text]
  splitChildren text := [text]

theorem plain_digests {first second : Bytes} (same : plainTools.sha256 first = plainTools.sha256 second) :
    first = second := by
  have chars := (List.cons_eq_cons.mp same).2
  refine (List.map_injective_iff.mpr (fun left right equal => ?_)) chars
  have code (byte : UInt8) : (Char.ofNat byte.toNat).toNat = byte.toNat := by
    have small : byte.toNat.isValidChar := Or.inl (by have := byte.toNat_lt; omega)
    rw [Char.ofNat,dif_pos small]
    rfl
  have codes := congrArg Char.toNat equal
  rw [code,code] at codes
  exact UInt8.toNat_inj.mp codes

/-- An edited file is replaced. -/
theorem ingest_matches_rebuild_edit :
    ∃ indexes, ((World.run plainTools "demo".toList
        ([(0,.ingest true false (oneFile "a.md" "x"))] ++
          [(0,.ingest true false (oneFile "a.md" "y"))])).memories 0).indexes = some indexes ∧
      SameDocuments indexes
        (((buildStores plainTools "demo".toList (oneFile "a.md" "y")).toOption).getD ∅) :=
  ingest_matches_rebuild plainTools "demo".toList [(0,.ingest true false (oneFile "a.md" "x"))] 0
    true false (oneFile "a.md" "y") (by decide +kernel) (fun _ _ _ _ => plain_digests) rfl

/-- A root file with a file of the same name in the folder of the default tenant. -/
def twoFiles (root inner : String) : Directory where
  files := (∅ : Dict Text Bytes).set "a.md".toList root.toUTF8.data.toList
  folders := (∅ : Dict Text (Dict Text Bytes)).set "demo".toList
    ((∅ : Dict Text Bytes).set "a.md".toList inner.toUTF8.data.toList)

/-- An edit of the root file is lost. -/
theorem root_edit_is_lost :
    ¬∀ (tools : Tools) (defaultTenant : Text) (events : List (Nat × Action)) (worker : Nat)
      (persist rebuild : Bool) (directory : Directory) (stores : Stores),
      (∀ first second, Occurs defaultTenant
          (contents (events ++ [(worker,.ingest persist rebuild directory)])) first →
        Occurs defaultTenant
          (contents (events ++ [(worker,.ingest persist rebuild directory)])) second →
        tools.sha256 first.bytes = tools.sha256 second.bytes → first.bytes = second.bytes) →
      buildStores tools defaultTenant directory = .ok stores →
      ∃ indexes, ((World.run tools defaultTenant
        (events ++ [(worker,.ingest persist rebuild directory)])).memories worker).indexes =
          some indexes ∧ SameDocuments indexes stores := by
  intro law
  obtain ⟨indexes,installed,same⟩ := law plainTools "demo".toList
    [(0,.ingest true false (twoFiles "x" "y"))] 0 true false (twoFiles "z" "y") _
    (fun _ _ _ _ => plain_digests) rfl
  have indexed := congrArg (fun found => found.getD ∅) installed
  dsimp only [Option.getD_some] at indexed
  have documents := same "demo".toList
  rw [← indexed] at documents
  revert documents
  decide +kernel

end CustomerService.Knowledge
