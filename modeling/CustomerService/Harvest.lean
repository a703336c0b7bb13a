import CustomerService.JsonLines

/-! Failed samples of the running service, collected in pending files and merged into the evaluation sets. -/
namespace CustomerService.Harvest

open Text Json JsonLines

/-- What the standard library does: the digits of a digest, and `str` of a list or a dictionary. -/
structure Lib where
  sha256 : Text → List (Fin 16)
  repr : Json → Text

def Lib.hexdigest (lib : Lib) (text : Text) : Text := (lib.sha256 text).map (fun digit : Fin 16 => hexDigit digit.val)

inductive PendingKind where
  | rag | faithfulness
deriving DecidableEq

def PendingKind.filename : PendingKind → Text
  | rag => "rag.jsonl".toList
  | faithfulness => "faithfulness.jsonl".toList

/-- The sample as a dictionary that `json` can write. -/
structure Case where
  fields : Dict Text Json
  fits : validPairs fields.entries = true

def Case.json (case : Case) : Json := obj case.fields.entries

theorem Case.valid (case : Case) : case.json.valid = true := by
  rw [json,Json.valid,case.fits,Bool.and_true,decide_eq_true_eq]
  exact case.fields.distinct

/-! Reading a sample. -/

def truthy : Json → Bool
  | word .null => false
  | word .false => false
  | word _ => true
  | number lexeme => (lexeme.takeWhile (fun char => char ≠ 'e' ∧ char ≠ 'E')).any (inRange 0x31 0x39)
  | str text => !text.isEmpty
  | arr items => !items.isEmpty
  | obj pairs => !pairs.isEmpty

def JsonWord.str : JsonWord → Text
  | .null => "None".toList
  | .true => "True".toList
  | .false => "False".toList
  | .nan => "nan".toList
  | .infinity => "inf".toList
  | .negInfinity => "-inf".toList

def str' (lib : Lib) : Json → Text
  | word name => JsonWord.str name
  | number lexeme => lexeme
  | str text => text
  | value => lib.repr value

def get (row : List (Text × Json)) (field : Text) : Option Json :=
  (row.find? (fun entry => entry.1 == field)).map Prod.snd

/-- `str(row.get(field) or ... or default)`. -/
def readField (lib : Lib) (row : List (Text × Json)) (fields : List Text) (default : Text) : Text :=
  match (fields.filterMap (get row)).find? truthy with
  | some value => str' lib value
  | none => default

def tenantOf (lib : Lib) (row : List (Text × Json)) : Text :=
  readField lib row ["tenant_id".toList] "demo".toList

def queryOf (lib : Lib) (row : List (Text × Json)) : Text := readField lib row ["query".toList] []

def idField : Text := "id".toList

def reasonOf (lib : Lib) (row : List (Text × Json)) (default : Text) : Text :=
  readField lib row ["source".toList,idField] default

def joined (tenant query reason : Text) : Text := tenant ++ '|'::(query ++ '|'::reason)

def caseId (lib : Lib) (tenant query reason : Text) : Text :=
  "pending-".toList ++ (lib.hexdigest (joined tenant query reason)).take 12

def dedupeKey (lib : Lib) (tenant query reason : Text) : Text := lib.hexdigest (joined tenant query reason)

def newId (lib : Lib) (row : List (Text × Json)) : Text :=
  caseId lib (tenantOf lib row) (queryOf lib row) (reasonOf lib row "unknown".toList)

def keyOf (lib : Lib) (row : List (Text × Json)) : Text :=
  dedupeKey lib (tenantOf lib row) (queryOf lib row) (reasonOf lib row "unknown".toList)

/-- The key `append_pending` gives a row it reads. -/
def existingKey (lib : Lib) (row : List (Text × Json)) : Text :=
  dedupeKey lib (tenantOf lib row) (queryOf lib row) (reasonOf lib row [])

theorem validPairs_iff (pairs : List (Text × Json)) :
    validPairs pairs = true ↔ ∀ pair ∈ pairs, pair.2.valid = true := by
  induction pairs with
  | nil => simp [validPairs]
  | cons pair others ih => rw [validPairs,Bool.and_eq_true,ih,List.forall_mem_cons]

theorem validPairs_set {fields : Dict Text Json} (fits : validPairs fields.entries = true) {key : Text}
    {value : Json} (fit : value.valid = true) : validPairs (fields.set key value).entries = true := by
  rw [validPairs_iff] at fits ⊢
  intro pair inside
  have found := (Dict.get?_eq_some (fields.set key value) pair.1 pair.2).mpr inside
  rw [Dict.get?_set] at found
  split_ifs at found with same
  · exact Option.some.inj found ▸ fit
  · exact fits pair ((Dict.get?_eq_some fields pair.1 pair.2).mp found)

def Case.setId (case : Case) (id : Text) : Case :=
  ⟨case.fields.set idField (str id),validPairs_set case.fits rfl⟩

/-- `case["id"]` is set when it is missing. -/
def Case.complete (lib : Lib) (case : Case) : Case :=
  if case.fields.keys.contains idField then case else case.setId (newId lib case.fields.entries)

/-! The process and its files. -/

structure World where
  pending : PendingKind → Text
  target : PendingKind → Text
  seen : List Text

/-- Whether a row of the file has the key. A line that is no JSON is passed over, a row that is no
dictionary has no `get`. -/
def scan (lib : Lib) (key : Text) : List Text → Option Bool
  | [] => some false
  | line::others =>
    match loads line with
    | none => scan lib key others
    | some (obj row) => if existingKey lib row = key then some true else scan lib key others
    | some _ => none

def addLine (files : PendingKind → Text) (kind : PendingKind) (text : Text) : PendingKind → Text :=
  Function.update files kind (files kind ++ text)

def appendPending (lib : Lib) (enabled : Bool) (case : Case) (kind : PendingKind) (world : World) :
    Option (Bool × World) :=
  if enabled = false then some (false,world)
  else
    let key := keyOf lib case.fields.entries
    if world.seen.contains key then some (false,world)
    else
      match scan lib key (dataLines (world.pending kind)) with
      | none => none
      | some true => some (false,{world with seen := key::world.seen})
      | some false =>
        some (true,{world with
          pending := addLine world.pending kind (dumps (case.complete lib).json ++ ['\n'])
          seen := key::world.seen})

def preview (directory : Text) (kind : PendingKind) (rows : List Text) : Text :=
  kind.filename ++ ": +".toList ++ (toString rows.length).toList ++ " rows -> ".toList ++ directory ++
    '/'::kind.filename

def mergeFile (apply' : Bool) (world : World) (kind : PendingKind) : World :=
  let rows := dataLines (world.pending kind)
  if rows.isEmpty || !apply' then world
  else {world with
    target := addLine world.target kind (written rows)
    pending := Function.update world.pending kind []}

def pendingFiles : List PendingKind := [.faithfulness,.rag]

def mergePending (directory : Text) (apply' : Bool) (world : World) : List Text × World :=
  ((pendingFiles.filter (fun kind => !(dataLines (world.pending kind)).isEmpty)).map
      (fun kind => preview directory kind (dataLines (world.pending kind))),
    pendingFiles.foldl (mergeFile apply') world)

def loadJsonl (world : World) (kind : PendingKind) : Option (List Json) := load (world.target kind)

inductive Event where
  | append (case : Case) (kind : PendingKind)
  | restart
  | merge

/-- One step while samples are collected, and what `append_pending` returned in it. -/
def step (lib : Lib) (directory : Text) (world : World) : Event → Option (List Bool × World)
  | .append case kind => (appendPending lib true case kind world).map (fun done => ([done.1],done.2))
  | .restart => some ([],{world with seen := []})
  | .merge => some ([],(mergePending directory true world).2)

def run (lib : Lib) (directory : Text) (world : World) : List Event → Option (List Bool × World)
  | [] => some ([],world)
  | event::others =>
    match step lib directory world event with
    | none => none
    | some (told,next) => (run lib directory next others).map (fun done => (told ++ done.1,done.2))

/-! What the files are for: each sample once, as tenant, query and reason tell them apart. -/

def triple (lib : Lib) (case : Case) : Text × Text × Text :=
  (tenantOf lib case.fields.entries,queryOf lib case.fields.entries,
    reasonOf lib case.fields.entries "unknown".toList)

/-- The samples merged so far, those waiting for the next merge, and all that the process was given
since it started. -/
structure Ledger where
  merged : List (PendingKind × Case)
  waiting : List (PendingKind × Case)
  recent : List Case

namespace Ledger

def start : Ledger := ⟨[],[],[]⟩

def stored (ledger : Ledger) : List (PendingKind × Case) := ledger.merged ++ ledger.waiting

def Knows (lib : Lib) (ledger : Ledger) (case : Case) : Prop :=
  ∃ entry ∈ ledger.stored, triple lib entry.2 = triple lib case

instance (lib : Lib) (ledger : Ledger) (case : Case) : Decidable (ledger.Knows lib case) :=
  inferInstanceAs (Decidable (∃ entry ∈ ledger.stored, _))

def advance (lib : Lib) (ledger : Ledger) : Event → Ledger
  | .append case kind => {ledger with
      waiting := if ledger.Knows lib case then ledger.waiting else ledger.waiting ++ [(kind,case)]
      recent := case::ledger.recent}
  | .restart => {ledger with recent := []}
  | .merge => {ledger with merged := ledger.stored, waiting := []}

/-- When the files follow a sample: a new one has no string with a line separator in it; it is taken only for one
that has its tenant, query and reason; and one seen before is still recognised, by the process or by its
row among those that wait. -/
structure Fits (lib : Lib) (ledger : Ledger) (case : Case) (kind : PendingKind) : Prop where
  whole : ledger.Knows lib case ∨ separated (texts case.json) = false
  apart : ∀ other ∈ ledger.recent, keyOf lib other.fields.entries = keyOf lib case.fields.entries →
    triple lib other = triple lib case
  apart' : ∀ entry ∈ ledger.waiting, entry.1 = kind ∧
    existingKey lib (entry.2.complete lib).fields.entries = keyOf lib case.fields.entries →
      triple lib entry.2 = triple lib case
  recalled : ¬ledger.Knows lib case ∨ (∃ other ∈ ledger.recent, triple lib other = triple lib case) ∨
    ∃ entry ∈ ledger.waiting, entry.1 = kind ∧
      existingKey lib (entry.2.complete lib).fields.entries = keyOf lib case.fields.entries

instance (lib : Lib) (ledger : Ledger) (case : Case) (kind : PendingKind) :
    Decidable (ledger.Fits lib case kind) :=
  decidable_of_iff (_ ∧ _ ∧ _ ∧ _) ⟨fun all => ⟨all.1,all.2.1,all.2.2.1,all.2.2.2⟩,
    fun fits => ⟨fits.whole,fits.apart,fits.apart',fits.recalled⟩⟩

def Runs (lib : Lib) (ledger : Ledger) : List Event → Prop
  | [] => True
  | .append case kind::others =>
    ledger.Fits lib case kind ∧ (ledger.advance lib (.append case kind)).Runs lib others
  | event::others => (ledger.advance lib event).Runs lib others

def after (lib : Lib) (ledger : Ledger) (events : List Event) : Ledger := events.foldl (advance lib) ledger

private theorem stored_append (lib : Lib) (ledger : Ledger) (case : Case) (kind : PendingKind) :
    (ledger.advance lib (.append case kind)).stored =
      if ledger.Knows lib case then ledger.stored else ledger.stored ++ [(kind,case)] := by
  simp only [advance,stored]
  split_ifs
  · rfl
  · rw [List.append_assoc]

private theorem stored_merge (lib : Lib) (ledger : Ledger) : (ledger.advance lib .merge).stored = ledger.stored :=
  List.append_nil _

private theorem knows_append (lib : Lib) (ledger : Ledger) (case other : Case) (kind : PendingKind) :
    (ledger.advance lib (.append case kind)).Knows lib other ↔
      triple lib case = triple lib other ∨ ledger.Knows lib other := by
  rw [Knows,stored_append]
  split_ifs with known
  · constructor
    · exact Or.inr
    · intro found
      rcases found with same | found
      · obtain ⟨entry,inside,first⟩ := known
        exact ⟨entry,inside,first.trans same⟩
      · exact found
  · constructor
    · intro found
      obtain ⟨entry,inside,same⟩ := found
      rcases List.mem_append.mp inside with inside | last
      · exact Or.inr ⟨entry,inside,same⟩
      · rw [List.mem_singleton.mp last] at same
        exact Or.inl same
    · intro found
      rcases found with same | ⟨entry,inside,same⟩
      · exact ⟨(kind,case),List.mem_append_right _ List.mem_cons_self,same⟩
      · exact ⟨entry,List.mem_append_left _ inside,same⟩

end Ledger

def lineOf (lib : Lib) (case : Case) : Text := dumps (case.complete lib).json

def ofKind (kind : PendingKind) (entries : List (PendingKind × Case)) : List Case :=
  (entries.filter (fun entry => entry.1 = kind)).map Prod.snd

/-- The files hold what the ledger says, and the process remembers what it was given. -/
structure Agrees (lib : Lib) (start world : World) (ledger : Ledger) : Prop where
  pending : ∀ kind, world.pending kind = written ((ofKind kind ledger.waiting).map (lineOf lib))
  target : ∀ kind, world.target kind =
    start.target kind ++ written ((ofKind kind ledger.merged).map (lineOf lib))
  seen : ∀ key, key ∈ world.seen ↔ ∃ case ∈ ledger.recent, keyOf lib case.fields.entries = key
  rows : ∀ entry ∈ ledger.stored, IsRow (lineOf lib entry.2)
  recent : ∀ case ∈ ledger.recent, ledger.Knows lib case

private theorem textsPairs_append (first second : List (Text × Json)) :
    textsPairs (first ++ second) = textsPairs first ++ textsPairs second := by
  induction first with
  | nil => rfl
  | cons pair others ih => simp only [List.cons_append,textsPairs,ih,List.append_assoc]

private theorem isSeparator_hexDigit (digit : Fin 16) : isSeparator (hexDigit digit.val) = false := by
  revert digit
  decide

private theorem separated_setId {case : Case} {id : Text} (absent : idField ∉ case.fields.keys)
    (before : separated (texts case.json) = false) (whole : id.any isSeparator = false) :
    separated (texts (case.setId id).json) = false := by
  have named : idField.any isSeparator = false := by decide +kernel
  have entries : (case.setId id).json = obj (case.fields.entries ++ [(idField,str id)]) :=
    congrArg obj (Dict.set_absent _ _ _ absent)
  have whole' : separated (textsPairs [(idField,str id)]) = false := by
    rw [textsPairs,separated_cons,named]
    simp only [textsPairs,texts,List.append_nil,separated_cons,whole]
    rfl
  rw [Case.json,texts] at before
  rw [entries,texts,textsPairs_append,separated_append,before,whole']
  rfl

private theorem hexdigest_plain (lib : Lib) {text : Text} {char : Char} (inside : char ∈ lib.hexdigest text) :
    isSeparator char = false := by
  rw [Lib.hexdigest,List.mem_map] at inside
  obtain ⟨digit,_,rfl⟩ := inside
  exact isSeparator_hexDigit digit

private theorem separated_caseId (lib : Lib) (tenant query reason : Text) :
    (caseId lib tenant query reason).any isSeparator = false := by
  have letters : ("pending-".toList).any isSeparator = false := by decide +kernel
  have digits : ((lib.hexdigest (joined tenant query reason)).take 12).any isSeparator = false := by
    rw [List.any_eq_false]
    intro char inside
    exact Bool.eq_false_iff.mp (hexdigest_plain lib (List.mem_of_mem_take inside))
  unfold caseId
  rw [List.any_append,letters,digits]
  rfl

private theorem separated_newId (lib : Lib) (row : List (Text × Json)) : (newId lib row).any isSeparator = false :=
  separated_caseId lib (tenantOf lib row) (queryOf lib row) (reasonOf lib row "unknown".toList)

private theorem isRow_line (lib : Lib) {case : Case} (whole : separated (texts case.json) = false) :
    IsRow (lineOf lib case) := by
  refine isRow_dumps (case.complete lib).valid ?_
  unfold Case.complete
  split_ifs with named
  · exact whole
  · exact separated_setId (fun listed => named (List.contains_iff_mem.mpr listed)) whole (separated_newId lib _)

private theorem scan_lines (lib : Lib) (key : Text) (cases : List Case) :
    scan lib key (cases.map (lineOf lib)) =
      some (cases.any (fun case => existingKey lib (case.complete lib).fields.entries = key)) := by
  induction cases with
  | nil => rfl
  | cons case others ih =>
    have read : loads (lineOf lib case) = some (obj (case.complete lib).fields.entries) :=
      loads_dumps (case.complete lib).valid
    rw [List.map_cons,scan,read]
    by_cases same : existingKey lib (case.complete lib).fields.entries = key
    · simp [same]
    · simp [same,ih]

private theorem any_existing (lib : Lib) (kind : PendingKind) (entries : List (PendingKind × Case)) (key : Text) :
    (ofKind kind entries).any (fun case => existingKey lib (case.complete lib).fields.entries = key) = true ↔
      ∃ entry ∈ entries, entry.1 = kind ∧ existingKey lib (entry.2.complete lib).fields.entries = key := by
  simp [ofKind]

private theorem mergeFile_target (world : World) (kind : PendingKind) :
    (mergeFile true world kind).target kind = world.target kind ++ written (dataLines (world.pending kind)) := by
  simp only [mergeFile,Bool.not_true,Bool.or_false]
  split_ifs with none'
  · rw [List.isEmpty_iff.mp none']
    exact (List.append_nil _).symm
  · exact Function.update_self _ _ _

theorem mergeFile_rows {world : World} {kind : PendingKind} {rows : List Text} (fit : ∀ row ∈ rows, IsRow row)
    (own : world.pending kind = written rows) :
    mergeFile true world kind = {world with
      target := addLine world.target kind (written rows)
      pending := Function.update world.pending kind []} := by
  have data : dataLines (world.pending kind) = rows := own ▸ dataLines_written fit
  simp only [mergeFile,data,Bool.not_true,Bool.or_false]
  split_ifs with none'
  · rw [List.isEmpty_iff] at none'
    subst none'
    have pending : Function.update world.pending kind [] = world.pending :=
      Function.update_eq_self_iff.mpr own.symm
    have target : addLine world.target kind (written []) = world.target :=
      Function.update_eq_self_iff.mpr (List.append_nil _)
    rw [pending,target]
  · rfl

private theorem mergePending_rows {world : World} {rows : PendingKind → List Text}
    (fit : ∀ kind, ∀ row ∈ rows kind, IsRow row) (own : ∀ kind, world.pending kind = written (rows kind))
    (directory : Text) :
    (mergePending directory true world).2 = {world with
      target := fun kind => world.target kind ++ written (rows kind)
      pending := fun _ => []} := by
  have other : (mergeFile true world .faithfulness).pending .rag = written (rows .rag) := by
    rw [mergeFile_rows (fit _) (own _)]
    exact own .rag
  have both : (mergePending directory true world).2 =
      mergeFile true (mergeFile true world .faithfulness) .rag := rfl
  rw [both,mergeFile_rows (fit _) other,mergeFile_rows (fit _) (own _)]
  congr 1
  · funext kind
    cases kind <;> rfl
  · funext kind
    cases kind <;> rfl

private theorem isRow_ofKind {lib : Lib} {entries : List (PendingKind × Case)}
    (rows : ∀ entry ∈ entries, IsRow (lineOf lib entry.2)) (kind : PendingKind) :
    ∀ row ∈ (ofKind kind entries).map (lineOf lib), IsRow row := by
  intro row listed
  obtain ⟨case,inside,rfl⟩ := List.mem_map.mp listed
  obtain ⟨entry,among,rfl⟩ := List.mem_map.mp inside
  exact rows entry (List.mem_filter.mp among).1

private theorem ofKind_append (kind : PendingKind) (first second : List (PendingKind × Case)) :
    ofKind kind (first ++ second) = ofKind kind first ++ ofKind kind second := by
  simp [ofKind]

variable {lib : Lib} {directory : Text} {start world : World} {ledger : Ledger}

private theorem keyOf_congr {first second : Case} (same : triple lib first = triple lib second) :
    keyOf lib first.fields.entries = keyOf lib second.fields.entries :=
  congrArg (fun told : Text × Text × Text => dedupeKey lib told.1 told.2.1 told.2.2) same

private theorem known_iff (agrees : Agrees lib start world ledger) {case : Case} {kind : PendingKind}
    (fits : ledger.Fits lib case kind) :
    (keyOf lib case.fields.entries ∈ world.seen ∨ ∃ entry ∈ ledger.waiting, entry.1 = kind ∧
      existingKey lib (entry.2.complete lib).fields.entries = keyOf lib case.fields.entries) ↔
        ledger.Knows lib case := by
  constructor
  · intro found
    rcases found with remembered | ⟨entry,inside,same⟩
    · obtain ⟨other,listed,same⟩ := (agrees.seen _).mp remembered
      obtain ⟨entry,inside,known⟩ := agrees.recent other listed
      exact ⟨entry,inside,known.trans (fits.apart other listed same)⟩
    · exact ⟨entry,List.mem_append_right _ inside,fits.apart' entry inside same⟩
  · intro known
    rcases fits.recalled with new | ⟨other,listed,same⟩ | waits
    · exact absurd known new
    · exact Or.inl ((agrees.seen _).mpr ⟨other,listed,keyOf_congr same⟩)
    · exact Or.inr waits

private theorem recent_advance (agrees : Agrees lib start world ledger) (case : Case) (kind : PendingKind) :
    ∀ other ∈ case::ledger.recent, (ledger.advance lib (.append case kind)).Knows lib other := by
  intro other listed
  rw [Ledger.knows_append]
  rcases List.mem_cons.mp listed with rfl | listed
  · exact Or.inl rfl
  · exact Or.inr (agrees.recent other listed)

private theorem seen_advance (agrees : Agrees lib start world ledger) (case : Case) (key : Text) :
    key ∈ keyOf lib case.fields.entries::world.seen ↔
      ∃ other ∈ case::ledger.recent, keyOf lib other.fields.entries = key := by
  simp [agrees.seen,eq_comm]

theorem append_known (agrees : Agrees lib start world ledger) {case : Case} (kind : PendingKind) {seen : List Text}
    (known : ledger.Knows lib case)
    (same : ∀ key, key ∈ seen ↔ key ∈ keyOf lib case.fields.entries::world.seen) :
    Agrees lib start {world with seen := seen} (ledger.advance lib (.append case kind)) := by
  have stored := Ledger.stored_append lib ledger case kind
  have waiting : (ledger.advance lib (.append case kind)).waiting = ledger.waiting := if_pos known
  rw [if_pos known] at stored
  exact ⟨fun other => waiting ▸ agrees.pending other,agrees.target,
    fun key => (same key).trans (seen_advance agrees case key),fun entry inside => agrees.rows entry (stored ▸ inside),
    recent_advance agrees case kind⟩

private theorem append_new (agrees : Agrees lib start world ledger) {case : Case} (kind : PendingKind)
    (new : ¬ledger.Knows lib case) (whole : separated (texts case.json) = false) :
    Agrees lib start {world with
        pending := addLine world.pending kind (lineOf lib case ++ ['\n'])
        seen := keyOf lib case.fields.entries::world.seen}
      (ledger.advance lib (.append case kind)) := by
  have stored := Ledger.stored_append lib ledger case kind
  have waiting : (ledger.advance lib (.append case kind)).waiting = ledger.waiting ++ [(kind,case)] := if_neg new
  rw [if_neg new] at stored
  refine ⟨fun other => ?_,agrees.target,seen_advance agrees case,fun entry inside => ?_,
    recent_advance agrees case kind⟩
  · rw [waiting,ofKind_append,List.map_append,written_append,← agrees.pending other]
    by_cases same : other = kind
    · subst same
      have own : ofKind other [(other,case)] = [case] := by simp [ofKind]
      simp only [addLine,Function.update_self,own]
      simp [written]
    · have none' : ofKind other [(kind,case)] = [] := by simp [ofKind,Ne.symm same]
      simp only [addLine,Function.update_of_ne same,none']
      exact (List.append_nil _).symm
  · rw [stored] at inside
    rcases List.mem_append.mp inside with inside | last
    · exact agrees.rows entry inside
    · rw [List.mem_singleton.mp last]
      exact isRow_line lib whole

private theorem append_agrees (agrees : Agrees lib start world ledger) {case : Case} {kind : PendingKind}
    (fits : ledger.Fits lib case kind) :
    ∃ next, appendPending lib true case kind world = some (decide (¬ledger.Knows lib case),next) ∧
      Agrees lib start next (ledger.advance lib (.append case kind)) := by
  have known := known_iff agrees fits
  have waiting : ∀ entry ∈ ledger.waiting, IsRow (lineOf lib entry.2) := fun entry inside =>
    agrees.rows entry (List.mem_append_right _ inside)
  have scanned : scan lib (keyOf lib case.fields.entries) (dataLines (world.pending kind)) =
      some ((ofKind kind ledger.waiting).any (fun other =>
        existingKey lib (other.complete lib).fields.entries = keyOf lib case.fields.entries)) := by
    rw [agrees.pending kind,dataLines_written (isRow_ofKind waiting kind),scan_lines]
  have seen : world.seen.contains (keyOf lib case.fields.entries) = true ↔
      keyOf lib case.fields.entries ∈ world.seen := List.contains_iff_mem
  rw [← any_existing] at known
  simp only [appendPending,Bool.true_eq_false,if_false,scanned]
  by_cases remembered : keyOf lib case.fields.entries ∈ world.seen
  · have here := known.mp (Or.inl remembered)
    rw [if_pos (seen.mpr remembered),decide_eq_false (not_not_intro here)]
    refine ⟨world,rfl,append_known agrees kind here (fun key => ?_)⟩
    rw [List.mem_cons]
    exact ⟨Or.inr,fun found => found.elim (fun same => same ▸ remembered) id⟩
  · rw [if_neg (fun listed => remembered (seen.mp listed))]
    cases found : (ofKind kind ledger.waiting).any (fun other =>
      existingKey lib (other.complete lib).fields.entries = keyOf lib case.fields.entries) with
    | true =>
      have here := known.mp (Or.inr found)
      rw [decide_eq_false (not_not_intro here)]
      exact ⟨_,rfl,append_known agrees kind here (fun key => Iff.rfl)⟩
    | false =>
      have new : ¬ledger.Knows lib case := fun here =>
        (known.mpr here).elim remembered (fun listed => by rw [found] at listed; cases listed)
      rw [decide_eq_true new]
      exact ⟨_,rfl,append_new agrees kind new (fits.whole.resolve_left new)⟩

private theorem merge_agrees (agrees : Agrees lib start world ledger) (directory : Text) :
    Agrees lib start (mergePending directory true world).2 (ledger.advance lib .merge) := by
  have waiting : ∀ entry ∈ ledger.waiting, IsRow (lineOf lib entry.2) := fun entry inside =>
    agrees.rows entry (List.mem_append_right _ inside)
  rw [mergePending_rows (fun kind => isRow_ofKind waiting kind) agrees.pending directory]
  refine ⟨fun kind => rfl,fun kind => ?_,agrees.seen,fun entry inside => ?_,fun case listed => ?_⟩
  · show world.target kind ++ _ = _
    rw [agrees.target,List.append_assoc,← written_append,← List.map_append,← ofKind_append]
    rfl
  · rw [Ledger.stored_merge] at inside
    exact agrees.rows entry inside
  · obtain ⟨entry,inside,same⟩ := agrees.recent case listed
    rw [← Ledger.stored_merge lib] at inside
    exact ⟨entry,inside,same⟩

private theorem restart_agrees (agrees : Agrees lib start world ledger) :
    Agrees lib start {world with seen := []} (ledger.advance lib .restart) :=
  ⟨agrees.pending,agrees.target,fun key => by simp [Ledger.advance],agrees.rows,fun case listed => nomatch listed⟩

/-! Runs. -/

def Event.appended : Event → Option (PendingKind × Case)
  | .append case kind => some (kind,case)
  | _ => none

def firsts {Item : Type*} [DecidableEq Item] (known : List Item) : List Item → List Bool
  | [] => []
  | item::others => decide (item ∉ known)::firsts (item::known) others

def triples (lib : Lib) (entries : List (PendingKind × Case)) : List (Text × Text × Text) :=
  entries.map (fun entry => triple lib entry.2)

private theorem knows_iff (lib : Lib) (ledger : Ledger) (case : Case) :
    ledger.Knows lib case ↔ triple lib case ∈ triples lib ledger.stored := by
  simp [Ledger.Knows,triples]

private theorem run_agrees {known : List (Text × Text × Text)} (agrees : Agrees lib start world ledger)
    (told : ∀ case, ledger.Knows lib case ↔ triple lib case ∈ known) {events : List Event}
    (runs : ledger.Runs lib events) :
    ∃ final, run lib directory world events =
        some (firsts known (triples lib (events.filterMap Event.appended)),final) ∧
      Agrees lib start final (ledger.after lib events) := by
  induction events generalizing world ledger known with
  | nil => exact ⟨world,rfl,agrees⟩
  | cons event others ih =>
    cases event with
    | append case kind =>
      obtain ⟨fits,rest⟩ := runs
      obtain ⟨next,done,agrees'⟩ := append_agrees agrees fits
      obtain ⟨final,ran,held⟩ := @ih next _ (triple lib case::known) agrees' (fun other => by
        rw [Ledger.knows_append,told,List.mem_cons,eq_comm]) rest
      refine ⟨final,?_,held⟩
      simp only [run,step,done,Option.map_some,ran]
      exact congrArg (fun first : Bool =>
          some (first::firsts (triple lib case::known) (triples lib (others.filterMap Event.appended)),final))
        (decide_eq_decide.mpr (not_congr (told case)))
    | restart =>
      obtain ⟨final,ran,held⟩ := ih (restart_agrees agrees) told runs
      refine ⟨final,?_,held⟩
      simp only [run,step,ran]
      rfl
    | merge =>
      have kept : ∀ case, (ledger.advance lib .merge).Knows lib case ↔ triple lib case ∈ known := by
        intro case
        rw [knows_iff,Ledger.stored_merge,← knows_iff,told]
      obtain ⟨final,ran,held⟩ := ih (merge_agrees agrees directory) kept runs
      refine ⟨final,?_,held⟩
      simp only [run,step,ran]
      rfl

private theorem triples_append (lib : Lib) (first second : List (PendingKind × Case)) :
    triples lib (first ++ second) = triples lib first ++ triples lib second := List.map_append

private theorem stored_advance (lib : Lib) (ledger : Ledger) (event : Event) :
    (ledger.advance lib event).stored = ledger.stored ∨
      ∃ entry, event.appended = some entry ∧ triple lib entry.2 ∉ triples lib ledger.stored ∧
        (ledger.advance lib event).stored = ledger.stored ++ [entry] := by
  cases event with
  | append case kind =>
    rw [Ledger.stored_append]
    split_ifs with known
    · exact Or.inl rfl
    · exact Or.inr ⟨(kind,case),rfl,fun listed => known ((knows_iff lib ledger case).mpr listed),rfl⟩
  | restart => exact Or.inl rfl
  | merge => exact Or.inl (Ledger.stored_merge lib ledger)

private theorem stored_once {events : List Event} (once : (triples lib ledger.stored).Nodup) :
    (triples lib (ledger.after lib events).stored).Nodup := by
  induction events generalizing ledger with
  | nil => exact once
  | cons event others ih =>
    apply ih
    rcases stored_advance lib ledger event with same | ⟨entry,_,new,same⟩
    · exact same ▸ once
    · rw [same,triples_append]
      exact once.append (List.nodup_singleton _) (List.disjoint_singleton.mpr new)

private theorem stored_given {events : List Event} {entry : PendingKind × Case}
    (inside : entry ∈ (ledger.after lib events).stored) :
    entry ∈ ledger.stored ∨ entry ∈ events.filterMap Event.appended := by
  induction events generalizing ledger with
  | nil => exact Or.inl inside
  | cons event others ih =>
    rcases ih inside with here | later
    · rcases stored_advance lib ledger event with same | ⟨new,given,_,same⟩
      · exact Or.inl (same ▸ here)
      · rw [same] at here
        rcases List.mem_append.mp here with before | last
        · exact Or.inl before
        · refine Or.inr (List.mem_filterMap.mpr ⟨event,List.mem_cons_self,?_⟩)
          rw [given,List.mem_singleton.mp last]
    · obtain ⟨other,listed,given⟩ := List.mem_filterMap.mp later
      exact Or.inr (List.mem_filterMap.mpr ⟨other,List.mem_cons_of_mem _ listed,given⟩)

private theorem knows_advance {event : Event} {case : Case} (known : ledger.Knows lib case) :
    (ledger.advance lib event).Knows lib case := by
  cases event with
  | append other kind => exact (Ledger.knows_append lib ledger other case kind).mpr (Or.inr known)
  | restart => exact known
  | merge => rwa [knows_iff,Ledger.stored_merge,← knows_iff]

private theorem knows_after {events : List Event} {case : Case}
    (known : ledger.Knows lib case ∨ ∃ kind, Event.append case kind ∈ events) :
    (ledger.after lib events).Knows lib case := by
  induction events generalizing ledger with
  | nil => exact known.elim id (fun listed => nomatch listed)
  | cons event others ih =>
    apply ih
    rcases known with known | ⟨kind,listed⟩
    · exact Or.inl (knows_advance known)
    · rcases List.mem_cons.mp listed with rfl | later
      · exact Or.inl ((Ledger.knows_append lib ledger case case kind).mpr (Or.inl rfl))
      · exact Or.inr ⟨kind,later⟩

/-- The samples survive a run: each triple is stored once, at the sample that brought it first, and the answers
say so; what is merged and what waits are together the stored samples, as they were written; and a merge
brings them all into the sets and leaves nothing to wait. -/
structure Survives (lib : Lib) (directory : Text) (start : World) (base : PendingKind → List Json)
    (events : List Event) (stored : List (PendingKind × Case)) (final : World) : Prop where
  ran : run lib directory start events =
    some (firsts [] (triples lib (events.filterMap Event.appended)),final)
  once : (triples lib stored).Nodup
  given : ∀ entry ∈ stored, entry ∈ events.filterMap Event.appended
  complete : ∀ case kind, Event.append case kind ∈ events → triple lib case ∈ triples lib stored
  files : ∀ kind, ∃ merged waiting, loadJsonl final kind = some (base kind ++ merged) ∧
    load (final.pending kind) = some waiting ∧
      merged ++ waiting = (ofKind kind stored).map (fun case => (case.complete lib).json)
  merged : ∀ kind, loadJsonl (mergePending directory true final).2 kind =
      some (base kind ++ (ofKind kind stored).map (fun case => (case.complete lib).json)) ∧
    (mergePending directory true final).2.pending kind = []

theorem load_rows {first : Text} {before : List Json} (ended : Ended first) (read : load first = some before)
    {entries : List (PendingKind × Case)} (rows : ∀ entry ∈ entries, IsRow (lineOf lib entry.2))
    (kind : PendingKind) :
    load (first ++ written ((ofKind kind entries).map (lineOf lib))) =
      some (before ++ (ofKind kind entries).map (fun case => (case.complete lib).json)) := by
  have found := @load_written _ _ ended read ((ofKind kind entries).map (fun case => (case.complete lib).json))
    (fun value inside => by
      obtain ⟨case,listed,rfl⟩ := List.mem_map.mp inside
      exact ⟨(case.complete lib).valid,isRow_ofKind rows kind _ (List.mem_map_of_mem listed)⟩)
  rw [List.map_map] at found
  exact found

/-- In every run that starts with no pending samples, over evaluation sets that load and whose last line is
ended, and in which every sample fits, the samples survive. -/
theorem harvest_survives (lib : Lib) (directory : Text) (start : World) (base : PendingKind → List Json)
    (fresh : ∀ kind, start.pending kind = []) (unseen : start.seen = [])
    (ended : ∀ kind, Ended (start.target kind)) (loads' : ∀ kind, loadJsonl start kind = some (base kind))
    (events : List Event) (runs : Ledger.start.Runs lib events) :
    ∃ stored final, Survives lib directory start base events stored final := by
  have agrees : Agrees lib start start Ledger.start :=
    ⟨fresh,fun kind => (List.append_nil _).symm,fun key => by simp [unseen,Ledger.start],
      (fun _ inside => nomatch inside),(fun _ listed => nomatch listed)⟩
  obtain ⟨final,ran,held⟩ := @run_agrees lib directory start start Ledger.start [] agrees
    (fun case => by simp [knows_iff,Ledger.start,Ledger.stored,triples]) events runs
  have next := merge_agrees held directory
  refine ⟨(Ledger.start.after lib events).stored,final,ran,stored_once List.nodup_nil,fun entry inside =>
    (stored_given inside).resolve_left (fun none' => nomatch none'),fun case kind listed =>
      (knows_iff _ _ _).mp (knows_after (Or.inr ⟨kind,listed⟩)),fun kind => ?_,fun kind => ⟨?_,?_⟩⟩
  · refine ⟨(ofKind kind (Ledger.start.after lib events).merged).map (fun case => (case.complete lib).json),
      (ofKind kind (Ledger.start.after lib events).waiting).map (fun case => (case.complete lib).json),?_,?_,?_⟩
    · rw [loadJsonl,held.target]
      exact load_rows (ended kind) (loads' kind)
        (fun entry inside => held.rows entry (List.mem_append_left _ inside)) kind
    · rw [held.pending]
      exact load_rows (Or.inl rfl) rfl (fun entry inside => held.rows entry (List.mem_append_right _ inside)) kind
    · rw [← List.map_append,← ofKind_append]
      rfl
  · rw [loadJsonl,next.target]
    exact load_rows (ended kind) (loads' kind) held.rows kind
  · rw [next.pending]
    rfl

def digest (hex : Text) : List (Fin 16) := hex.map (fun char => Fin.ofNat 16 ((hexValue char).getD 0))

def shownLib : Lib where
  sha256 text :=
    if text = "demo|难吗|rag_empty".toList then
      digest "d6dc96d8a30291d19219416043989c87e801bfe30ad4028f4eed8df2fe16fbc1".toList
    else if text = "demo|a|b|manual".toList then
      digest "ecd19d11c5e102421abd7be19abc8b98d23651b74288e061b18e0dabdc0d5940".toList
    else []
  repr _ := []

def sample (source query : Text) : Case where
  fields := ((∅ : Dict Text Json).set "source".toList (str source)).set "query".toList (str query)
  fits := validPairs_set (validPairs_set rfl rfl) rfl

def noFiles : World := ⟨fun _ => [],fun _ => [],[]⟩

def shownEvents : List Event :=
  let miss := sample "rag_empty".toList "难吗".toList
  [.append miss .rag,.append miss .rag,.restart,.append miss .rag,
    .append (sample "manual".toList "a|b".toList) .faithfulness,.merge]

theorem harvest_survives_restart : ∃ stored final,
    Survives shownLib "evals".toList noFiles (fun _ => []) shownEvents stored final :=
  harvest_survives shownLib "evals".toList noFiles (fun _ => []) (fun _ => rfl) rfl (fun _ => Or.inl rfl)
    (fun _ => rfl) shownEvents ⟨by decide +kernel,by decide +kernel,by decide +kernel,by decide +kernel,trivial⟩

/-- A line separator in the query: the row is torn in two when it is merged, and the set no longer loads. -/
def torn : Case := (sample "manual".toList ['a',Char.ofNat 0x2028,'b']).setId "x".toList

theorem torn_sample_lost : ¬∃ lib stored final,
    Survives lib "evals".toList noFiles (fun _ => []) [.append torn .rag] stored final := by
  intro found
  obtain ⟨lib,stored,final,survives⟩ := found
  have named : torn.complete lib = torn := if_pos (by decide +kernel)
  have ran : run lib "evals".toList noFiles [.append torn .rag] = some ([true],{noFiles with
      pending := addLine noFiles.pending .rag (dumps (torn.complete lib).json ++ ['\n'])
      seen := [keyOf lib torn.fields.entries]}) := rfl
  have split : load (written (dataLines (dumps torn.json ++ ['\n']))) = none := by
    rw [← Option.isNone_iff_eq_none]
    decide +kernel
  have same := survives.ran
  rw [ran,named] at same
  cases same
  have loaded := (survives.merged .rag).1
  change load (mergeFile true {noFiles with
    pending := addLine noFiles.pending .rag (dumps torn.json ++ ['\n']), seen := _} .rag |>.target .rag) = _ at loaded
  rw [mergeFile_target] at loaded
  exact absurd (split.symm.trans loaded) (by simp)

end CustomerService.Harvest
