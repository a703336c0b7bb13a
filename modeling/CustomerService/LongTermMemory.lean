import CustomerService.OrderAccess

/-! The long-term profile of a user: a hot copy in the Store, which may expire, and a cold
one in the row of `user_profiles`. A call that misses the hot copy writes the cold one back. -/
namespace CustomerService.LongTermMemory
open Text OrderAccess

def MAX_RECENT : Nat := 5

def MISSING_COURSE_NAMES : List Text := [[],"未找到课程".toList]

/-- The profile, and the value that both stores keep of it. -/
structure UserMemory where
  lastIntent : Option Text
  lastOrderNo : Option Text
  lastCourseQuery : Option Text
  lastCourseName : Option Text
  handoffPending : Bool
  recentOrderNos : List Text
  recentCourseNames : List Text
  updatedAt : Option Text
  deriving DecidableEq

def blank : UserMemory := ⟨none,none,none,none,false,[],[],none⟩

/-- `value or None`. -/
def orNone (value : Option Text) : Option Text := value.filter (fun text => !text.isEmpty)

def toValue (memory : UserMemory) : UserMemory :=
  {memory with
    recentOrderNos := memory.recentOrderNos.take MAX_RECENT
    recentCourseNames := memory.recentCourseNames.take MAX_RECENT}

def fromValue (value : UserMemory) : UserMemory :=
  {value with
    lastIntent := orNone value.lastIntent
    lastOrderNo := orNone value.lastOrderNo
    lastCourseQuery := orNone value.lastCourseQuery
    lastCourseName := orNone value.lastCourseName}

def prependUnique (items : List Text) (value : Text) : List Text :=
  if value = [] then items.take MAX_RECENT
  else (value::items.filter (fun item => item ≠ value)).take MAX_RECENT

structure SaveArgs where
  intent : Option Text
  orderNo : Option Text
  courseQuery : Option Text
  courseName : Option Text
  handoffPending : Option Bool
  deriving DecidableEq

def SaveArgs.order (args : SaveArgs) : Option Text := orNone args.orderNo

/-- A course name trimmed, when it is not that of a missing course. -/
def usableCourseName (courseName : Option Text) : Option Text :=
  let name := strip (courseName.getD [])
  if MISSING_COURSE_NAMES.contains name then none else some name

def SaveArgs.course (args : SaveArgs) : Option Text := usableCourseName args.courseName

/-- `recent = _prepend_unique(recent, value)`, when there is a value. -/
def remember (items : List Text) (value : Option Text) : List Text :=
  match value with
  | some value => prependUnique items value
  | none => items

/-- What `save_user_memory` makes of the profile it has loaded. -/
def merge (current : UserMemory) (args : SaveArgs) (now : Text) : UserMemory where
  lastIntent := (orNone args.intent).or current.lastIntent
  lastOrderNo := args.order.or current.lastOrderNo
  lastCourseQuery := (orNone args.courseQuery).or current.lastCourseQuery
  lastCourseName := args.course.or current.lastCourseName
  handoffPending := args.handoffPending.getD current.handoffPending
  recentOrderNos := remember current.recentOrderNos args.order
  recentCourseNames := remember current.recentCourseNames args.course
  updatedAt := some now

structure Stores where
  hot : Option UserMemory
  cold : Option UserMemory
  deriving DecidableEq

structure Access where
  row : Bool
  backfill : Bool
  put : Bool
  upsert : Bool

def loadUserMemory (userId : Text) (stores : Stores) (access : Access) : UserMemory × Stores :=
  if isPersistentUser userId = false then (blank,stores)
  else
    match stores.hot with
    | some value => (fromValue value,stores)
    | none =>
      match stores.cold.filter (fun _ => access.row) with
      | none => (blank,stores)
      | some archived =>
        (fromValue archived,
          if access.backfill then {stores with hot := some (toValue (fromValue archived))}
          else stores)

/-- A put that fails raises, so that the row stays as it is; no caller reads what is returned. -/
def saveUserMemory (userId : Text) (enabled : Bool) (stores : Stores) (access : Access)
    (args : SaveArgs) (now : Text) : Stores :=
  if isPersistentUser userId = false ∨ enabled = false then stores
  else
    let loaded := loadUserMemory userId stores access
    let value := toValue (merge loaded.1 args now)
    if access.put = false then loaded.2
    else ⟨some value,if access.upsert then some value else loaded.2.cold⟩

/-! Values. -/

theorem orNone_orNone (value : Option Text) : orNone (orNone value) = orNone value := by
  simp [orNone]

private theorem toValue_toValue (memory : UserMemory) : toValue (toValue memory) = toValue memory := by
  simp [toValue,List.take_take]

theorem fromValue_fromValue (value : UserMemory) : fromValue (fromValue value) = fromValue value := by
  simp [fromValue,orNone_orNone]

private theorem fromValue_toValue (memory : UserMemory) :
    fromValue (toValue memory) = toValue (fromValue memory) := rfl

theorem fromValue_blank : fromValue blank = blank := rfl

theorem course_ne {args : SaveArgs} {name : Text} (saved : args.course = some name) : name ≠ [] := by
  unfold SaveArgs.course usableCourseName at saved
  dsimp only at saved
  split at saved
  · cases saved
  · rename_i named
    rintro rfl
    rw [Option.some.inj saved] at named
    exact named (by decide)

theorem order_ne {args : SaveArgs} {number : Text} (saved : args.order = some number) :
    number ≠ [] := by
  rintro rfl
  exact absurd (Option.filter_eq_some_iff.mp saved).2 (by decide)

theorem orNone_or {first second : Option Text} (solid : orNone first = first) :
    orNone (first.or second) = first.or (orNone second) := by
  cases first with
  | none => rfl
  | some text => exact solid

/-- Saving into a profile as loaded leaves nothing for `from_value` to change. -/
theorem fromValue_merge {current : UserMemory} (loaded : fromValue current = current)
    (args : SaveArgs) (now : Text) : fromValue (merge current args now) = merge current args now := by
  have intent := congrArg UserMemory.lastIntent loaded
  have order := congrArg UserMemory.lastOrderNo loaded
  have query := congrArg UserMemory.lastCourseQuery loaded
  have name := congrArg UserMemory.lastCourseName loaded
  have named : orNone args.course = args.course := by
    cases saved : args.course with
    | none => rfl
    | some text =>
      have solid := course_ne saved
      cases text with
      | nil => exact absurd rfl solid
      | cons char rest => rfl
  have ordered : orNone args.order = args.order := orNone_orNone _
  simp only [fromValue] at intent order query name
  simp only [fromValue,merge]
  rw [orNone_or (orNone_orNone _),intent,orNone_or ordered,order,
    orNone_or (orNone_orNone _),query,orNone_or named,name]

/-- What a save stores reads back as it was, and stays so when it is written back. -/
structure Settled (value : UserMemory) : Prop where
  from_value : fromValue value = value
  to_value : toValue value = value

theorem settled_merge {current : UserMemory} (loaded : fromValue current = current)
    (args : SaveArgs) (now : Text) : Settled (toValue (merge current args now)) where
  from_value := by rw [fromValue_toValue,fromValue_merge loaded]
  to_value := toValue_toValue _

/-! What a profile names. -/

/-- Every order number in the profile is of the kind. -/
structure Names (kind : Text → Prop) (memory : UserMemory) : Prop where
  last : ∀ number, memory.lastOrderNo = some number → kind number
  recent : ∀ number ∈ memory.recentOrderNos, kind number

variable {kind : Text → Prop} {memory : UserMemory}

theorem Names.blank : Names kind LongTermMemory.blank where
  last := by
    intro number named
    cases named
  recent := by
    intro number listed
    cases listed

theorem Names.fromValue (names : Names kind memory) : Names kind (fromValue memory) where
  last := by
    intro number named
    exact names.last number (Option.filter_eq_some_iff.mp named).1
  recent := names.recent

theorem Names.toValue (names : Names kind memory) : Names kind (toValue memory) where
  last := names.last
  recent := fun number listed => names.recent number (List.mem_of_mem_take listed)

theorem mem_prependUnique {items : List Text} {value number : Text}
    (listed : number ∈ prependUnique items value) : number = value ∨ number ∈ items := by
  unfold prependUnique at listed
  split at listed
  · exact Or.inr (List.mem_of_mem_take listed)
  · rcases List.mem_cons.mp (List.mem_of_mem_take listed) with same | kept
    · exact Or.inl same
    · exact Or.inr (List.mem_of_mem_filter kept)

theorem Names.merge (names : Names kind memory) {args : SaveArgs}
    (saved : ∀ number, args.order = some number → kind number) (now : Text) :
    Names kind (merge memory args now) where
  last := by
    intro number named
    rcases Option.or_eq_some_iff.mp named with given | ⟨_,old⟩
    · exact saved number given
    · exact names.last number old
  recent := by
    intro number listed
    change number ∈ remember memory.recentOrderNos args.order at listed
    unfold remember at listed
    split at listed
    · rename_i value given
      rcases mem_prependUnique listed with rfl | old
      · exact saved number given
      · exact names.recent number old
    · exact names.recent number listed

/-- Both copies name order numbers of the kind only. -/
structure Stores.Names (kind : Text → Prop) (stores : Stores) : Prop where
  hot : ∀ value, stores.hot = some value → LongTermMemory.Names kind value
  cold : ∀ value, stores.cold = some value → LongTermMemory.Names kind value

theorem Stores.Names.load {stores : Stores} (names : stores.Names kind) (userId : Text)
    (access : Access) : LongTermMemory.Names kind (loadUserMemory userId stores access).1 ∧
      (loadUserMemory userId stores access).2.Names kind := by
  unfold loadUserMemory
  split
  · exact ⟨.blank,names⟩
  cases hot : stores.hot with
  | some value => exact ⟨(names.hot value hot).fromValue,names⟩
  | none =>
    cases found : stores.cold.filter (fun _ => access.row) with
    | none => exact ⟨.blank,names⟩
    | some archived =>
      have kept := names.cold archived (Option.filter_eq_some_iff.mp found).1
      refine ⟨kept.fromValue,?_⟩
      dsimp only
      split
      · refine ⟨fun value same => ?_,names.cold⟩
        cases same
        exact kept.fromValue.toValue
      · exact names

theorem Stores.Names.save {stores : Stores} (names : stores.Names kind) (userId : Text)
    (enabled : Bool) (access : Access) {args : SaveArgs}
    (saved : ∀ number, args.order = some number → kind number) (now : Text) :
    (saveUserMemory userId enabled stores access args now).Names kind := by
  unfold saveUserMemory
  split
  · exact names
  have ⟨current,loaded⟩ := names.load userId access
  have value := (current.merge saved now).toValue
  dsimp only
  split
  · exact loaded
  · refine ⟨fun other same => ?_,fun other same => ?_⟩
    · cases same
      exact value
    · dsimp only at same
      split at same
      · cases same
        exact value
      · exact loaded.cold other same

end CustomerService.LongTermMemory
