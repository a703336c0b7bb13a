import CustomerService.KnowledgeUpload

/-! The documents of uploaded files: what an ingest leaves in use is what was uploaded last. -/
namespace CustomerService.Knowledge

open Text ThreadKey

/-! The files of a directory without a folder of the default tenant. -/

def Rootless (defaultTenant : Text) (directory : Directory) : Prop :=
  directory.folders.get? defaultTenant = none

theorem Rootless.namesApart {defaultTenant : Text} {directory : Directory}
    (rootless : Rootless defaultTenant directory) : NamesApart defaultTenant directory := by
  intro name _ _
  rw [Dict.getD_of_none rootless]
  exact List.not_mem_nil

private theorem mem_knowledgeFiles_root {defaultTenant : Text} {directory : Directory} {name : Text}
    {body : Bytes} (markdown : isMarkdown name = true)
    (found : directory.files.get? name = some body) :
    ⟨⟨none,name⟩,defaultTenant,body⟩ ∈ knowledgeFiles defaultTenant directory := by
  refine List.mem_append_left _ (List.mem_map.mpr ⟨(name,body),?_,rfl⟩)
  rw [markdownFiles,sortedByName,(List.perm_insertionSort _ _).mem_iff]
  exact List.mem_filter.mpr ⟨(Dict.get?_eq_some _ _ _).mp found,markdown⟩

private theorem mem_knowledgeFiles_folder {defaultTenant : Text} {directory : Directory}
    {tenantId name : Text} {folder : Dict Text Bytes} {body : Bytes}
    (markdown : isMarkdown name = true) (inside : directory.folders.get? tenantId = some folder)
    (found : folder.get? name = some body) :
    ⟨⟨some tenantId,name⟩,tenantId,body⟩ ∈ knowledgeFiles defaultTenant directory := by
  refine List.mem_append_right _ (List.mem_flatMap.mpr ⟨(tenantId,folder),?_,?_⟩)
  · rw [sortedByName,(List.perm_insertionSort _ _).mem_iff]
    exact (Dict.get?_eq_some _ _ _).mp inside
  · refine List.mem_map.mpr ⟨(name,body),?_,rfl⟩
    rw [markdownFiles,sortedByName,(List.perm_insertionSort _ _).mem_iff]
    exact List.mem_filter.mpr ⟨(Dict.get?_eq_some _ _ _).mp found,markdown⟩

/-- The Markdown file of a tenant and a name, when there is one. -/
def indexedContent (defaultTenant : Text) (directory : Directory) (tenantId name : Text) :
    Option Bytes :=
  if isMarkdown name then directory.content (tenantPath defaultTenant tenantId name) else none

private theorem mem_knowledgeFiles_iff {defaultTenant : Text} {directory : Directory}
    (rootless : Rootless defaultTenant directory) (file : File) :
    file ∈ knowledgeFiles defaultTenant directory ↔
      file.path = tenantPath defaultTenant file.tenantId file.path.name ∧
        indexedContent defaultTenant directory file.tenantId file.path.name = some file.bytes := by
  obtain ⟨⟨folder,name⟩,tenantId,body⟩ := file
  dsimp only [indexedContent,tenantPath,Directory.content]
  constructor
  · intro listed
    obtain ⟨markdown,⟨root,found,none'⟩ | ⟨own,part,inside,found⟩⟩ := mem_knowledgeFiles listed
    · dsimp only at root found none' markdown
      subst root none'
      simp [markdown,found]
    · dsimp only at own inside found markdown
      have other : tenantId ≠ defaultTenant := by
        rintro rfl
        rw [show directory.folders.get? tenantId = none from rootless] at inside
        cases inside
      subst own
      simp [markdown,other,inside,found]
  · rintro ⟨placed,found⟩
    by_cases markdown : isMarkdown name = true
    · rw [if_pos markdown] at found
      by_cases root : tenantId = defaultTenant
      · rw [if_pos root] at placed found
        cases placed
        subst root
        exact mem_knowledgeFiles_root markdown found
      · rw [if_neg root] at placed found
        cases placed
        obtain ⟨folder,inside,named⟩ := Option.bind_eq_some_iff.mp found
        exact mem_knowledgeFiles_folder markdown inside named
    · rw [if_neg markdown] at found
      cases found

private theorem eq_singleton_of_nodup {Item : Type*} {items : List Item} {only : Item}
    (once : items.Nodup) (all : ∀ item ∈ items, item = only) (listed : only ∈ items) :
    items = [only] := by
  cases items with
  | nil => exact absurd listed List.not_mem_nil
  | cons first rest =>
    cases all first List.mem_cons_self
    cases rest with
    | nil => rfl
    | cons second more =>
      have again := all second (List.mem_cons_of_mem _ List.mem_cons_self)
      subst again
      exact absurd List.mem_cons_self (List.nodup_cons.mp once).1

section
variable (tools : Tools) (defaultTenant : Text)

def contentDocuments (tenantId name : Text) (content : Option Bytes) : List Document :=
  (content.map (fun body =>
    fileDocuments tools ⟨tenantPath defaultTenant tenantId name,tenantId,body⟩)).getD []

private theorem withKey_directoryDocuments {directory : Directory}
    (rootless : Rootless defaultTenant directory) (tenantId name : Text) :
    withKey Document.source name (withKey Document.tenantId tenantId
        (directoryDocuments tools defaultTenant directory)) =
      contentDocuments tools defaultTenant tenantId name
        (indexedContent defaultTenant directory tenantId name) := by
  have narrowed : withKey Document.source name (withKey Document.tenantId tenantId
      (directoryDocuments tools defaultTenant directory)) =
      ((knowledgeFiles defaultTenant directory).filter (fun file =>
        file.path.name == name && file.tenantId == tenantId)).flatMap (fileDocuments tools) := by
    rw [withKey,withKey,List.filter_filter,directoryDocuments]
    refine filter_flatMap_of_same (fun file _ document member => ?_)
    rw [(hash_of_file member).1,(file_of_document tools member).1]
  have chosen (file : File) : file ∈ (knowledgeFiles defaultTenant directory).filter (fun file =>
      file.path.name == name && file.tenantId == tenantId) ↔
      file.path = tenantPath defaultTenant tenantId name ∧ file.tenantId = tenantId ∧
        indexedContent defaultTenant directory tenantId name = some file.bytes := by
    simp only [List.mem_filter,mem_knowledgeFiles_iff rootless,Bool.and_eq_true,beq_iff_eq]
    constructor
    · rintro ⟨⟨placed,found⟩,rfl,rfl⟩
      exact ⟨placed,rfl,found⟩
    · rintro ⟨placed,rfl,found⟩
      have named : file.path.name = name := by
        rw [placed]
        rfl
      subst named
      exact ⟨⟨placed,found⟩,rfl,rfl⟩
  rw [narrowed]
  cases content : indexedContent defaultTenant directory tenantId name with
  | none =>
    have nothing : (knowledgeFiles defaultTenant directory).filter (fun file =>
        file.path.name == name && file.tenantId == tenantId) = [] := by
      refine List.eq_nil_iff_forall_not_mem.mpr (fun file listed => ?_)
      have found := ((chosen file).mp listed).2.2
      rw [content] at found
      cases found
    rw [nothing]
    rfl
  | some body =>
    have only := eq_singleton_of_nodup
      ((List.Nodup.of_map _ (nodup_paths defaultTenant directory)).filter _) (fun file listed => ?_)
      ((chosen ⟨tenantPath defaultTenant tenantId name,tenantId,body⟩).mpr ⟨rfl,rfl,content⟩)
    · rw [only,List.flatMap_singleton]
      rfl
    · obtain ⟨placed,tenant,found⟩ := (chosen file).mp listed
      rw [content] at found
      obtain ⟨path,tenantId',bytes⟩ := file
      rw [File.mk.injEq]
      exact ⟨placed,tenant,(Option.some.inj found).symm⟩

/-! What can be indexed. -/

/-- Every Markdown file can be read, and there is a document. -/
def Indexable (directory : Directory) : Prop :=
  (∀ file ∈ knowledgeFiles defaultTenant directory, (decode file.bytes).isSome) ∧
    directoryDocuments tools defaultTenant directory ≠ []

instance instDecidableIndexable (directory : Directory) :
    Decidable (Indexable tools defaultTenant directory) :=
  inferInstanceAs (Decidable ((∀ file ∈ knowledgeFiles defaultTenant directory,
    (decode file.bytes).isSome) ∧ directoryDocuments tools defaultTenant directory ≠ []))

private theorem loadFiles_of_decoded {files : List File}
    (read : ∀ file ∈ files, (decode file.bytes).isSome) :
    loadFiles tools files = .ok (files.flatMap (fileDocuments tools)) := by
  induction files with
  | nil => rfl
  | cons file rest ih =>
    obtain ⟨text,decoded⟩ := Option.isSome_iff_exists.mp (read file List.mem_cons_self)
    rw [loadFiles,ih (fun other later => read other (List.mem_cons_of_mem _ later)),
      List.flatMap_cons,fileDocuments,buildParentChildDocuments,decoded]
    rfl

private theorem decoded_of_loadFiles {files : List File} {documents : List Document}
    (loaded : loadFiles tools files = .ok documents) {file : File} (listed : file ∈ files) :
    (decode file.bytes).isSome := by
  induction files generalizing documents with
  | nil => exact absurd listed List.not_mem_nil
  | cons first rest ih =>
    unfold loadFiles at loaded
    cases built : buildParentChildDocuments tools first with
    | none => simp [built] at loaded
    | some head =>
      cases more : loadFiles tools rest with
      | error failure => simp [built,more,Except.map] at loaded
      | ok tail =>
        rcases List.mem_cons.mp listed with rfl | later
        · rw [buildParentChildDocuments] at built
          obtain ⟨text,decoded,_⟩ := Option.map_eq_some_iff.mp built
          rw [decoded]
          rfl
        · exact ih more later

private theorem buildStores_ok_iff (directory : Directory) :
    (∃ stores, buildStores tools defaultTenant directory = .ok stores) ↔
      Indexable tools defaultTenant directory := by
  constructor
  · rintro ⟨stores,built⟩
    obtain ⟨loaded,nonempty,_⟩ := load_of_build tools defaultTenant built
    exact ⟨fun file listed => decoded_of_loadFiles tools loaded listed,nonempty⟩
  · rintro ⟨read,nonempty⟩
    refine ⟨storesFromGroups (groupDocuments (directoryDocuments tools defaultTenant directory)),?_⟩
    rw [buildStores,loadKnowledgeDocuments,loadFiles_of_decoded tools read]
    exact if_neg nonempty

end

/-! Runs. -/

section
variable (tools : Tools) (settings : UploadSettings)

private theorem rootless_write {defaultTenant tenantId name : Text} {directory : Directory}
    (rootless : Rootless defaultTenant directory) (body : Bytes) :
    Rootless defaultTenant (directory.write (tenantPath defaultTenant tenantId name) body) := by
  unfold Rootless tenantPath Directory.write
  by_cases root : tenantId = defaultTenant
  · rw [if_pos root]
    exact rootless
  · rw [if_neg root]
    dsimp only
    rw [Dict.get?_set,if_neg (Ne.symm root)]
    exact rootless

private theorem rootless_targetDir {defaultTenant : Text} (tenantId : Text) {directory : Directory}
    (rootless : Rootless defaultTenant directory) :
    Rootless defaultTenant (targetDir defaultTenant tenantId directory).1 := by
  unfold targetDir
  cases formTenant defaultTenant tenantId with
  | none => exact rootless
  | some tenant =>
    dsimp only
    split_ifs with root taken
    · exact rootless
    · exact rootless
    · unfold Rootless
      rw [Dict.get?_set,if_neg (Ne.symm root)]
      exact rootless

private theorem rootless_saveFile (opens : Path → Bool) {directory : Directory} (tenantId filename : Text)
    (body : Bytes) (rootless : Rootless settings.defaultTenant directory) :
    Rootless settings.defaultTenant
      (saveFile settings opens directory tenantId filename body).1 := by
  have made := rootless_targetDir tenantId rootless
  unfold saveFile
  dsimp only
  cases found : (targetDir settings.defaultTenant tenantId directory).2 with
  | error refusal => exact made
  | ok folder =>
    dsimp only
    cases safeMarkdownName filename with
    | error refusal => exact made
    | ok name =>
      dsimp only
      obtain ⟨tenant,_,placed⟩ := targetDir_ok found
      have path : (⟨folder,name⟩ : Path) = tenantPath settings.defaultTenant tenant name := by
        rw [tenantPath,placed]
      split_ifs
      · exact made
      · rw [path]
        exact rootless_write made body
      · exact made

theorem SiteEvent.rootless_after {directory : Directory} (event : SiteEvent)
    (rootless : Rootless settings.defaultTenant directory) :
    Rootless settings.defaultTenant (event.after settings directory) := by
  cases event with
  | post request opens =>
    unfold SiteEvent.after ingestKnowledge
    dsimp only
    cases requireAdminToken settings request.adminToken with
    | error refusal => exact rootless
    | ok passed =>
      dsimp only
      cases request.file with
      | none => exact rootless
      | some file =>
        dsimp only
        have saved := rootless_saveFile settings opens request.tenantId file.1 file.2 rootless
        split_ifs
        · exact rootless
        · cases (saveFile settings opens directory request.tenantId file.1 file.2).2 with
          | error refusal => exact saved
          | ok path => exact saved
  | ingest worker rebuild => exact rootless
  | load worker => exact rootless
  | search worker scope => exact rootless
  | restart worker => exact rootless

private theorem rootless_run {initial : Directory} (rootless : Rootless settings.defaultTenant initial)
    (events : List SiteEvent) :
    Rootless settings.defaultTenant (Site.run settings tools initial events).directory := by
  have keeps : ∀ (site : Site) (event : SiteEvent),
      Rootless settings.defaultTenant site.directory →
        Rootless settings.defaultTenant (site.step settings tools event).directory :=
    fun _ event => event.rootless_after settings
  exact Transition.run_invariant keeps rootless events

/-- What the processes do in a run, each ingest with the files it reads. -/
def actions : Directory → List SiteEvent → List (Nat × Action)
  | _, [] => []
  | directory, event::rest =>
    (event.action directory).toList ++ actions (event.after settings directory) rest

private theorem world_run (directory : Directory) (world : World) (events : List SiteEvent) :
    (Transition.run (Site.step settings tools) ⟨directory,world⟩ events).world =
      Transition.run (World.step tools settings.defaultTenant) world
        (actions settings directory events) := by
  induction events generalizing directory world with
  | nil => rfl
  | cons event rest ih =>
    rw [Transition.run_cons,actions,Transition.run_append]
    refine (ih (event.after settings directory) _).trans ?_
    dsimp only
    cases event.action directory with
    | none => rfl
    | some action => rfl

private theorem actions_append (directory : Directory) (world : World) (first second : List SiteEvent) :
    actions settings directory (first ++ second) = actions settings directory first ++
      actions settings (Transition.run (Site.step settings tools) ⟨directory,world⟩ first).directory
        second := by
  induction first generalizing directory world with
  | nil => rfl
  | cons event rest ih =>
    rw [List.cons_append,actions,actions,Transition.run_cons,List.append_assoc]
    congr 1
    exact ih (event.after settings directory) _

private theorem rootless_contents {directory found : Directory} {events : List SiteEvent}
    (rootless : Rootless settings.defaultTenant directory)
    (listed : found ∈ contents (actions settings directory events)) :
    Rootless settings.defaultTenant found := by
  induction events generalizing directory with
  | nil => exact absurd listed List.not_mem_nil
  | cons event rest ih =>
    rw [actions,contents,List.filterMap_append] at listed
    rcases List.mem_append.mp listed with now | later
    · cases event with
      | ingest worker rebuild =>
        cases List.mem_singleton.mp now
        exact rootless
      | post request opens => exact absurd now List.not_mem_nil
      | load worker => exact absurd now List.not_mem_nil
      | search worker scope => exact absurd now List.not_mem_nil
      | restart worker => exact absurd now List.not_mem_nil
    · exact ih (event.rootless_after settings rootless) later

/-- The file of a tenant and a name after a run, as the index should hold it. -/
def uploaded (initial : Directory) (events : List SiteEvent) (tenantId name : Text) :
    Option Bytes :=
  if isMarkdown name then
    lastWritten (initial.content (tenantPath settings.defaultTenant tenantId name))
      (saves settings initial events) (tenantPath settings.defaultTenant tenantId name)
  else none

private theorem indexedContent_run (initial : Directory) (events : List SiteEvent) (tenantId name : Text) :
    indexedContent settings.defaultTenant (Site.run settings tools initial events).directory
      tenantId name = uploaded settings initial events tenantId name := by
  rw [indexedContent,uploaded,Site.run,content_run]

/-- The documents in use of every tenant are the chunks of what was uploaded last. -/
def Indexed (initial : Directory) (events : List SiteEvent) (indexes : Stores) : Prop :=
  ∀ tenantId name, liveFaces name (indexes.getD tenantId []) =
    (contentDocuments tools settings.defaultTenant tenantId name
      (uploaded settings initial events tenantId name)).map face

private theorem world_put_host (world : World) (worker : Nat) : world.put worker (world.host worker) = world := by
  have same : (fun other => if other = worker then world.memories worker else world.memories other) =
      world.memories := by
    funext other
    split_ifs with here
    · rw [here]
    · rfl
  unfold World.put World.host
  dsimp only
  rw [same]

/-- In any run an ingest leaves in use the chunks of the files last uploaded, of the tenants
they were uploaded for; as long as one of them cannot be read, it changes nothing. -/
theorem uploads_are_indexed (initial : Directory) (rootless : Rootless settings.defaultTenant initial)
    (events : List SiteEvent) (worker : Nat) (rebuild : Bool)
    (digests : ∀ first second,
      Occurs settings.defaultTenant
        (contents (actions settings initial (events ++ [.ingest worker rebuild]))) first →
      Occurs settings.defaultTenant
        (contents (actions settings initial (events ++ [.ingest worker rebuild]))) second →
      tools.sha256 first.bytes = tools.sha256 second.bytes → first.bytes = second.bytes) :
    (¬Indexable tools settings.defaultTenant (Site.run settings tools initial events).directory ∧
      (Site.run settings tools initial (events ++ [.ingest worker rebuild])).world =
        (Site.run settings tools initial events).world) ∨
    (Indexable tools settings.defaultTenant (Site.run settings tools initial events).directory ∧
      ∃ indexes, ((Site.run settings tools initial
          (events ++ [.ingest worker rebuild])).world.memories worker).indexes = some indexes ∧
        Indexed tools settings initial events indexes) := by
  have split : contents (actions settings initial (events ++ [.ingest worker rebuild])) =
      contents (actions settings initial events) ++
        [(Site.run settings tools initial events).directory] := by
    rw [actions_append tools settings initial .start,contents,List.filterMap_append]
    rfl
  have last : (Site.run settings tools initial (events ++ [.ingest worker rebuild])).world =
      (Site.run settings tools initial events).world.step tools settings.defaultTenant
        (worker,.ingest true rebuild (Site.run settings tools initial events).directory) := by
    rw [Site.run,Transition.run_append]
    rfl
  by_cases indexable : Indexable tools settings.defaultTenant
      (Site.run settings tools initial events).directory
  · refine Or.inr ⟨indexable,?_⟩
    obtain ⟨stores,built⟩ := (buildStores_ok_iff tools settings.defaultTenant _).mpr indexable
    have apart : ∀ found ∈ contents (actions settings initial (events ++ [.ingest worker rebuild])),
        NamesApart settings.defaultTenant found :=
      fun found listed => (rootless_contents settings rootless listed).namesApart
    have distinguished : Distinguished tools (Occurs settings.defaultTenant
        (contents (actions settings initial (events ++ [.ingest worker rebuild])))) := by
      refine ⟨fun file found nothing => ?_,digests⟩
      obtain ⟨_,_,listed⟩ := found
      have markdown := (mem_knowledgeFiles listed).1
      rw [nothing] at markdown
      cases markdown
    have inside : (Site.run settings tools initial events).directory ∈
        contents (actions settings initial (events ++ [.ingest worker rebuild])) := by
      rw [split]
      exact List.mem_append_right _ (List.mem_singleton_self _)
    have earlier : contents (actions settings initial events) ⊆
        contents (actions settings initial (events ++ [.ingest worker rebuild])) := by
      rw [split]
      exact List.subset_append_left _ _
    have clean := clean_run tools settings.defaultTenant distinguished earlier apart worker
    have same : World.run tools settings.defaultTenant (actions settings initial events) =
        (Site.run settings tools initial events).world :=
      (world_run tools settings initial .start events).symm
    rw [same] at clean
    obtain ⟨result,changed,published,matched⟩ := ingest_accepted tools settings.defaultTenant
      distinguished inside (apart _ inside) built
        (clean.existing (cleanStores_empty tools _)) true rebuild
    refine ⟨result,?_,fun tenantId name => ?_⟩
    · rw [last,World.step,Host.act,published]
      cases changed <;> simp [World.put,Host.publish,Host.install,Host.persist]
    · rw [matched tenantId name,withKey_directoryDocuments tools settings.defaultTenant
        (rootless_run tools settings rootless events),indexedContent_run]
  · refine Or.inl ⟨indexable,?_⟩
    have failed : ∃ failure, buildStores tools settings.defaultTenant
        (Site.run settings tools initial events).directory = .error failure := by
      cases built : buildStores tools settings.defaultTenant
          (Site.run settings tools initial events).directory with
      | error failure => exact ⟨failure,rfl⟩
      | ok stores =>
        exact absurd ((buildStores_ok_iff tools settings.defaultTenant _).mp ⟨stores,built⟩) indexable
    obtain ⟨failure,built⟩ := failed
    rw [last,World.step,Host.act,ingest_rejected tools settings.defaultTenant built]
    exact world_put_host _ _

end

/-! An upload that goes up a folder, and the same file once more. -/

def uploadSettings : UploadSettings := ⟨"demo".toList,"secret".toList⟩

def markdownUpload (tenantId filename body : String) : SiteEvent :=
  .post ⟨"secret".toList,tenantId.toList,false,some (filename.toList,body.toUTF8.data.toList)⟩
    (fun _ => true)

def twoUploads : List SiteEvent :=
  [markdownUpload "acme" "../a.md" "x",.ingest 0 false,markdownUpload "acme" "a.md" "y"]

theorem uploads_are_indexed_edit :
    Indexable plainTools uploadSettings.defaultTenant
      (Site.run uploadSettings plainTools ⟨∅,∅⟩ twoUploads).directory ∧
    ∃ indexes, ((Site.run uploadSettings plainTools ⟨∅,∅⟩
        (twoUploads ++ [.ingest 1 false])).world.memories 1).indexes = some indexes ∧
      Indexed plainTools uploadSettings ⟨∅,∅⟩ twoUploads indexes := by
  refine (uploads_are_indexed plainTools uploadSettings ⟨∅,∅⟩ rfl twoUploads 1 false
    (fun _ _ _ _ => plain_digests)).resolve_left (fun failed => failed.1 ?_)
  decide +kernel

end CustomerService.Knowledge
