import CustomerService.IngestEquivalence
import CustomerService.SummaryFormat
import CustomerService.ThreadKey

/-! Uploads of Markdown files by an administrator, and what the index holds of them. -/
namespace CustomerService.Knowledge

open Text ThreadKey

/-! Names. -/

/-- The parts between slashes, less the empty ones and the single points. -/
def pathParts (filename : Text) : List Text :=
  (filename.splitOn '/').filter (fun part => part ≠ [] ∧ part ≠ ['.'])

/-- `Path(filename).name`. -/
def baseName (filename : Text) : Text := (pathParts filename).getLastD []

/-- `name.lower().endswith(".md")`; only the capital letters of these two become them. -/
def endsMarkdown (name : Text) : Bool := ".md".toList.isSuffixOf (name.map Char.toLower)

/-- An answer with a status and a text, or an exception that the server answers with 500. -/
inductive Refusal
  | http (status : Nat) (detail : Text)
  | valueError
  | osError
deriving DecidableEq

def safeMarkdownName (filename : Text) : Except Refusal Text :=
  let name := strip (baseName filename)
  if name = [] ∨ [['.'],['.','.']].contains name then .error (.http 422 "文件名无效".toList)
  else if !endsMarkdown name then .error (.http 422 "仅支持 .md 文件".toList)
  else .ok name

/-! The request. -/

structure UploadSettings where
  defaultTenant : Text
  adminIngestToken : Text

/-- The form of a request; a header or a field that is missing is empty. -/
structure UploadRequest where
  adminToken : Text
  tenantId : Text
  rebuild : Bool
  file : Option (Text × Bytes)

structure IngestResponse where
  status : Text
  tenantId : Text
  rebuild : Bool
  savedPath : Option Path
  message : Text

def requireAdminToken (settings : UploadSettings) (adminToken : Text) : Except Refusal Unit :=
  let expected := strip settings.adminIngestToken
  if expected = [] then .error (.http 503 "未配置 ADMIN_INGEST_TOKEN，ingest API 已禁用".toList)
  else if strip adminToken ≠ expected then .error (.http 401 "无效的管理员令牌".toList)
  else .ok ()

/-- `normalize_tenant_id(tenant_id or settings.default_tenant)`. -/
def formTenant (defaultTenant tenantId : Text) : Option Text :=
  normalizeTenantId (if tenantId = [] then defaultTenant else tenantId) defaultTenant

/-- `body.strip()` is empty. -/
def isBlankBody (body : Bytes) : Bool := body.all (fun byte => [9,10,11,12,13,32].contains byte)

def Directory.write (directory : Directory) (path : Path) (body : Bytes) : Directory :=
  match path.folder with
  | none => { directory with files := directory.files.set path.name body }
  | some folder =>
    let files := (directory.folders.getD folder ∅).set path.name body
    { directory with folders := directory.folders.set folder files }

/-- `_target_dir`: the folder, none for the root. It is made when it is missing, unless a
file has its name. -/
def targetDir (defaultTenant tenantId : Text) (directory : Directory) :
    Directory × Except Refusal (Option Text) :=
  match formTenant defaultTenant tenantId with
  | none => (directory,.error .valueError)
  | some tenant =>
    if tenant = defaultTenant then (directory,.ok none)
    else if directory.files.keys.contains tenant then (directory,.error .osError)
    else
      let folders := directory.folders.set tenant (directory.folders.getD tenant ∅)
      ({ directory with folders },.ok (some tenant))

/-- The part of `ingest_knowledge` that saves the file; `opens` says for which paths the
system opens a file. -/
def saveFile (settings : UploadSettings) (opens : Path → Bool) (directory : Directory)
    (tenantId filename : Text) (body : Bytes) : Directory × Except Refusal Path :=
  let target := targetDir settings.defaultTenant tenantId directory
  match target.2 with
  | .error refusal => (target.1,.error refusal)
  | .ok folder =>
    match safeMarkdownName filename with
    | .error refusal => (target.1,.error refusal)
    | .ok name =>
      if isBlankBody body then (target.1,.error (.http 422 "文件内容为空".toList))
      else if opens ⟨folder,name⟩ then (target.1.write ⟨folder,name⟩ body,.ok ⟨folder,name⟩)
      else (target.1,.error .osError)

def ingestKnowledge (settings : UploadSettings) (opens : Path → Bool) (directory : Directory)
    (request : UploadRequest) : Directory × Except Refusal IngestResponse :=
  let answer (savedPath : Option Path) : Except Refusal IngestResponse :=
    match formTenant settings.defaultTenant request.tenantId with
    | none => .error .valueError
    | some tenant => .ok ⟨"accepted".toList,tenant,request.rebuild,savedPath,
        "ingest 已在后台启动，完成后各 worker 将自动热加载索引".toList⟩
  match requireAdminToken settings request.adminToken with
  | .error refusal => (directory,.error refusal)
  | .ok _ =>
    match request.file with
    | none => (directory,answer none)
    | some (filename,body) =>
      if filename = [] then (directory,answer none)
      else
        let saved := saveFile settings opens directory request.tenantId filename body
        match saved.2 with
        | .error refusal => (saved.1,.error refusal)
        | .ok path => (saved.1,answer (some path))

/-! The files. -/

def Directory.content (directory : Directory) (path : Path) : Option Bytes :=
  match path.folder with
  | none => directory.files.get? path.name
  | some folder => (directory.folders.get? folder).bind (·.get? path.name)

private theorem content_write (directory : Directory) (path other : Path) (body : Bytes) :
    (directory.write path body).content other =
      if other = path then some body else directory.content other := by
  obtain ⟨folder,name⟩ := path
  obtain ⟨folder',name'⟩ := other
  cases folder with
  | none =>
    cases folder' with
    | none => simp [Directory.write,Directory.content,Dict.get?_set]
    | some tenant' => simp [Directory.write,Directory.content]
  | some tenant =>
    cases folder' with
    | none => simp [Directory.write,Directory.content]
    | some tenant' =>
      simp only [Directory.write,Directory.content,Dict.get?_set,Path.mk.injEq,Option.some.injEq]
      by_cases same : tenant' = tenant
      · subst same
        rw [if_pos rfl,Option.bind_some,Dict.get?_set]
        by_cases named : name' = name
        · simp [named]
        · rw [if_neg named,if_neg (fun both => named both.2),Dict.getD]
          cases directory.folders.get? tenant' with
          | none => rfl
          | some folder => rfl
      · rw [if_neg same,if_neg (fun both => same both.1)]

private theorem content_targetDir (defaultTenant tenantId : Text) (directory : Directory) (path : Path) :
    (targetDir defaultTenant tenantId directory).1.content path = directory.content path := by
  unfold targetDir
  cases formTenant defaultTenant tenantId with
  | none => rfl
  | some tenant =>
    dsimp only
    split_ifs
    · rfl
    · rfl
    · obtain ⟨folder,name⟩ := path
      cases folder with
      | none => rfl
      | some other =>
        simp only [Directory.content,Dict.get?_set]
        split_ifs with same
        · subst same
          rw [Option.bind_some,Dict.getD]
          cases directory.folders.get? other with
          | none => rfl
          | some folder => rfl
        · rfl

/-! What is saved. -/

private theorem slash_notMem_baseName (filename : Text) : '/' ∉ baseName filename := by
  unfold baseName
  cases parts : pathParts filename with
  | nil => exact List.not_mem_nil
  | cons first rest =>
    have last : (first::rest).getLastD [] ∈ pathParts filename := by
      rw [parts,List.getLastD_eq_getLast?,List.getLast?_eq_getLast_of_ne_nil (List.cons_ne_nil _ _)]
      exact List.getLast_mem _
    intro inside
    have part := SummaryFacts.mem_splitOnP (List.mem_filter.mp last).1 '/' inside
    exact absurd part.1 (by decide)

/-- A name of a Markdown file that stays in its folder. -/
structure SafeName (name : Text) : Prop where
  flat : '/' ∉ name
  proper : name ∉ [[],['.'],['.','.']]
  markdown : endsMarkdown name = true

private theorem safeMarkdownName_ok {filename name : Text} (safe : safeMarkdownName filename = .ok name) :
    SafeName name := by
  unfold safeMarkdownName at safe
  dsimp only at safe
  split_ifs at safe with special plain
  cases safe
  refine ⟨fun inside => slash_notMem_baseName filename (mem_of_mem_strip inside),?_,by simpa using plain⟩
  intro listed
  apply special
  simpa using listed

def tenantPath (defaultTenant tenantId name : Text) : Path :=
  ⟨if tenantId = defaultTenant then none else some tenantId,name⟩

/-- Where a request of an administrator puts its file. -/
structure Places (settings : UploadSettings) (request : UploadRequest) (path : Path)
    (body : Bytes) : Prop where
  authorized : strip settings.adminIngestToken ≠ [] ∧
    strip request.adminToken = strip settings.adminIngestToken
  tenant : ∃ tenant, formTenant settings.defaultTenant request.tenantId = some tenant ∧
    path = tenantPath settings.defaultTenant tenant path.name
  safe : SafeName path.name
  sent : request.file.map Prod.snd = some body
  solid : isBlankBody body = false

theorem targetDir_ok {defaultTenant tenantId : Text} {directory : Directory} {folder : Option Text}
    (found : (targetDir defaultTenant tenantId directory).2 = .ok folder) :
    ∃ tenant, formTenant defaultTenant tenantId = some tenant ∧
      folder = if tenant = defaultTenant then none else some tenant := by
  unfold targetDir at found
  cases formed : formTenant defaultTenant tenantId with
  | none =>
    rw [formed] at found
    cases found
  | some tenant =>
    rw [formed] at found
    refine ⟨tenant,rfl,?_⟩
    dsimp only at found
    split_ifs at found with root taken
    · cases found
      rw [if_pos root]
    · cases found
      rw [if_neg root]

private theorem saveFile_spec (settings : UploadSettings) (opens : Path → Bool) (directory : Directory)
    (tenantId filename : Text) (body : Bytes) :
    match (saveFile settings opens directory tenantId filename body).2 with
    | .error _ => ∀ path, (saveFile settings opens directory tenantId filename body).1.content path =
        directory.content path
    | .ok path =>
      (∃ tenant, formTenant settings.defaultTenant tenantId = some tenant ∧
        path = tenantPath settings.defaultTenant tenant path.name) ∧
      SafeName path.name ∧ isBlankBody body = false ∧
      ∀ other, (saveFile settings opens directory tenantId filename body).1.content other =
        if other = path then some body else directory.content other := by
  have made := content_targetDir settings.defaultTenant tenantId directory
  unfold saveFile
  dsimp only
  cases found : (targetDir settings.defaultTenant tenantId directory).2 with
  | error refusal => exact made
  | ok folder =>
    dsimp only
    obtain ⟨tenant,formed,placed⟩ := targetDir_ok found
    cases named : safeMarkdownName filename with
    | error refusal => exact made
    | ok name =>
      dsimp only
      by_cases blank : isBlankBody body = true
      · rw [if_pos blank]
        exact made
      · rw [if_neg blank]
        by_cases opened : opens ⟨folder,name⟩ = true
        · rw [if_pos opened]
          refine ⟨⟨tenant,formed,?_⟩,safeMarkdownName_ok named,by simpa using blank,fun other => ?_⟩
          · rw [tenantPath,placed]
          · rw [content_write,made]
        · rw [if_neg opened]
          exact made

def savedBy (request : UploadRequest) (answer : Except Refusal IngestResponse) :
    Option (Path × Bytes) :=
  match answer with
  | .error _ => none
  | .ok response => response.savedPath.bind (fun path => request.file.map (fun file => (path,file.2)))

private theorem requireAdminToken_ok {settings : UploadSettings} {adminToken : Text} {passed : Unit}
    (allowed : requireAdminToken settings adminToken = .ok passed) :
    strip settings.adminIngestToken ≠ [] ∧ strip adminToken = strip settings.adminIngestToken := by
  unfold requireAdminToken at allowed
  dsimp only at allowed
  split_ifs at allowed with missing other
  exact ⟨missing,not_not.mp other⟩

private theorem ingestKnowledge_spec (settings : UploadSettings) (opens : Path → Bool)
    (directory : Directory) (request : UploadRequest) :
    match savedBy request (ingestKnowledge settings opens directory request).2 with
    | none => ∀ path, (ingestKnowledge settings opens directory request).1.content path =
        directory.content path
    | some (path,body) => Places settings request path body ∧
        ∀ other, (ingestKnowledge settings opens directory request).1.content other =
          if other = path then some body else directory.content other := by
  unfold ingestKnowledge
  dsimp only
  cases allowed : requireAdminToken settings request.adminToken with
  | error refusal => exact fun _ => rfl
  | ok passed =>
    dsimp only
    cases given : request.file with
    | none =>
      cases formTenant settings.defaultTenant request.tenantId with
      | none => exact fun _ => rfl
      | some tenant => exact fun _ => rfl
    | some file =>
      obtain ⟨filename,body⟩ := file
      dsimp only
      by_cases unnamed : filename = []
      · rw [if_pos unnamed]
        cases formTenant settings.defaultTenant request.tenantId with
        | none => exact fun _ => rfl
        | some tenant => exact fun _ => rfl
      · rw [if_neg unnamed]
        have spec := saveFile_spec settings opens directory request.tenantId filename body
        cases saved : (saveFile settings opens directory request.tenantId filename body).2 with
        | error refusal =>
          rw [saved] at spec
          exact spec
        | ok path =>
          rw [saved] at spec
          obtain ⟨⟨tenant,formed,placed⟩,safe,solid,written⟩ := spec
          simp only [formed,savedBy,given,Option.bind_some,Option.map_some]
          exact ⟨⟨requireAdminToken_ok allowed,⟨tenant,formed,placed⟩,safe,
            by rw [given]; rfl,solid⟩,written⟩

/-! Runs of requests, and of the processes that read the files. -/

/-- A request, the ingest of a background task, or what else a process does. -/
inductive SiteEvent
  | post (request : UploadRequest) (opens : Path → Bool)
  | ingest (worker : Nat) (rebuild : Bool)
  | load (worker : Nat)
  | search (worker : Nat) (scope : Text)
  | restart (worker : Nat)

/-- `_run_ingest` reads the files that are there when it runs. -/
def SiteEvent.action (directory : Directory) : SiteEvent → Option (Nat × Action)
  | .post _ _ => none
  | .ingest worker rebuild => some (worker,.ingest true rebuild directory)
  | .load worker => some (worker,.load)
  | .search worker scope => some (worker,.search scope)
  | .restart worker => some (worker,.restart)

structure Site where
  directory : Directory
  world : World

section
variable (settings : UploadSettings)

def SiteEvent.after (directory : Directory) : SiteEvent → Directory
  | .post request opens => (ingestKnowledge settings opens directory request).1
  | _ => directory

def SiteEvent.saved (directory : Directory) : SiteEvent → Option (Path × Bytes)
  | .post request opens => savedBy request (ingestKnowledge settings opens directory request).2
  | _ => none

def Site.step (tools : Tools) (site : Site) (event : SiteEvent) : Site where
  directory := event.after settings site.directory
  world := ((event.action site.directory).map
    (site.world.step tools settings.defaultTenant)).getD site.world

def Site.run (tools : Tools) (initial : Directory) (events : List SiteEvent) : Site :=
  Transition.run (Site.step settings tools) ⟨initial,.start⟩ events

def saves : Directory → List SiteEvent → List (Path × Bytes)
  | _, [] => []
  | directory, event::rest =>
    (event.saved settings directory).toList ++ saves (event.after settings directory) rest

def lastWritten (before : Option Bytes) (writes : List (Path × Bytes)) (path : Path) :
    Option Bytes :=
  writes.foldl (fun content write => if path = write.1 then some write.2 else content) before

theorem SiteEvent.content_after (directory : Directory) (event : SiteEvent) (path : Path) :
    (event.after settings directory).content path =
      lastWritten (directory.content path) (event.saved settings directory).toList path := by
  cases event with
  | post request opens =>
    have spec := ingestKnowledge_spec settings opens directory request
    simp only [SiteEvent.after,SiteEvent.saved]
    cases saved : savedBy request (ingestKnowledge settings opens directory request).2 with
    | none =>
      rw [saved] at spec
      exact spec path
    | some write =>
      rw [saved] at spec
      exact spec.2 path
  | ingest worker rebuild => rfl
  | load worker => rfl
  | search worker scope => rfl
  | restart worker => rfl

theorem content_run (tools : Tools) (directory : Directory) (world : World)
    (events : List SiteEvent) (path : Path) :
    (Transition.run (Site.step settings tools) ⟨directory,world⟩ events).directory.content path =
      lastWritten (directory.content path) (saves settings directory events) path := by
  induction events generalizing directory world with
  | nil => rfl
  | cons event rest ih =>
    rw [Transition.run_cons,saves,lastWritten,List.foldl_append]
    refine (ih (event.after settings directory) _).trans ?_
    rw [SiteEvent.content_after]
    rfl

private theorem saves_placed {directory : Directory} {events : List SiteEvent} {write : Path × Bytes}
    (listed : write ∈ saves settings directory events) :
    ∃ request opens, .post request opens ∈ events ∧
      Places settings request write.1 write.2 := by
  induction events generalizing directory with
  | nil => exact absurd listed List.not_mem_nil
  | cons event rest ih =>
    rcases List.mem_append.mp listed with now | later
    · cases event with
      | post request opens =>
        have spec := ingestKnowledge_spec settings opens directory request
        rw [Option.mem_toList] at now
        simp only [SiteEvent.saved] at now
        rw [now] at spec
        exact ⟨request,opens,List.mem_cons_self,spec.1⟩
      | ingest worker rebuild => exact absurd now List.not_mem_nil
      | load worker => exact absurd now List.not_mem_nil
      | search worker scope => exact absurd now List.not_mem_nil
      | restart worker => exact absurd now List.not_mem_nil
    · obtain ⟨request,opens,inside,placed⟩ := ih later
      exact ⟨request,opens,List.mem_cons_of_mem _ inside,placed⟩

/-- Every file is the one last uploaded to its path, or the one from the start. What is
uploaded is from an administrator, at a safe name in the folder of the tenant asked for. -/
theorem uploads_are_kept (tools : Tools) (initial : Directory) (events : List SiteEvent) :
    (∀ path, (Site.run settings tools initial events).directory.content path =
      lastWritten (initial.content path) (saves settings initial events) path) ∧
    ∀ write ∈ saves settings initial events, ∃ request opens, .post request opens ∈ events ∧
      Places settings request write.1 write.2 :=
  ⟨content_run settings tools initial .start events,fun _ listed => saves_placed settings listed⟩

end

end CustomerService.Knowledge
