import CustomerService.MemoryUpdates
import CustomerService.Recency

/-! The recent lists of a profile whose calls come one after another. Between two of them the hot
copy may go; it is written back from the row. -/
namespace CustomerService.RecentLists
open Text OrderAccess LongTermMemory MemoryUpdates Transition Recency

/-- A list of the profile with the field of its newest value. -/
structure Listed extends Recent where
  last : UserMemory → Option Text
  last_blank : last blank = none
  last_merge : ∀ memory args now,
    last (toValue (merge memory args now)) = (saved args).or (last memory)

def listedOrders : Listed where
  toRecent := recentOrders
  last := UserMemory.lastOrderNo
  last_blank := rfl
  last_merge _ _ _ := rfl

def listedCourses : Listed where
  toRecent := recentCourses
  last := UserMemory.lastCourseName
  last_blank := rfl
  last_merge _ _ _ := rfl

inductive Call
  | save (args : SaveArgs) (now : Text)
  | load
  | expire

def everyAccess : Access := ⟨true,true,true,true⟩

def step (userId : Text) (stores : Stores) : Call → Stores
  | .save args now => saveUserMemory userId true stores everyAccess args now
  | .load => (loadUserMemory userId stores everyAccess).2
  | .expire => {stores with hot := none}

def Call.saves : Call → Option SaveArgs
  | .save args _ => some args
  | _ => none

def values (saved : SaveArgs → Option Text) (calls : List Call) : List Text :=
  calls.filterMap (fun call => call.saves.bind saved)

def newest (values : List Text) : List Text := values.dedup.reverse.take MAX_RECENT

structure Recalls (listed : Listed) (calls : List Call) (value : UserMemory) : Prop where
  items : listed.items value = newest (values listed.saved calls)
  last : (listed.items value).head? = listed.last value

/-- A value that reads back as it is written, with both lists as the calls have left them. -/
structure Current (calls : List Call) (value : UserMemory) : Prop where
  settled : Settled value
  orders : Recalls listedOrders calls value
  courses : Recalls listedCourses calls value

/-- The row is current when there is one, the hot copy is, and without either nothing was saved. -/
structure Kept (calls : List Call) (stores : Stores) : Prop where
  hot : ∀ value, stores.hot = some value → Current calls value
  cold : ∀ value, stores.cold = some value → Current calls value
  fresh : stores.cold = none → stores.hot = none ∧ Current calls blank

/-! ### One save -/

private theorem newest_concat (earlier : List Text) (value : Text) :
    newest (earlier ++ [value]) =
      (value::(newest earlier).filter (fun other => other ≠ value)).take MAX_RECENT := by
  have distinct : ((latest id earlier).map id).Nodup := nodup_latest id earlier
  have list (values : List Text) : newest values = ((latest id values).rtake MAX_RECENT).reverse := by
    rw [newest,latest_eq_dedup,List.rtake_eq_reverse_take_reverse,List.reverse_reverse]
  have capped := rtake_pushAll_rtake id distinct [value] MAX_RECENT
  rw [list,list,latest_concat]
  calc ((push id (latest id earlier) value).rtake MAX_RECENT).reverse
      = ((push id ((latest id earlier).rtake MAX_RECENT) value).rtake MAX_RECENT).reverse :=
        congrArg List.reverse capped.symm
    _ = _ := reverse_rtake_push value MAX_RECENT

private theorem newest_short (earlier : List Text) : (newest earlier).take MAX_RECENT = newest earlier := by
  unfold newest
  rw [List.take_take,min_self]

private theorem values_concat (saved : SaveArgs → Option Text) (calls : List Call) (call : Call) :
    values saved (calls ++ [call]) = values saved calls ++ (call.saves.bind saved).toList := by
  unfold values
  rw [List.filterMap_append]
  cases same : call.saves.bind saved <;> simp [same]

theorem Recalls.aside {listed : Listed} {calls : List Call} {value : UserMemory}
    (recalls : Recalls listed calls value) {call : Call} (none' : call.saves = none) :
    Recalls listed (calls ++ [call]) value := by
  refine ⟨?_,recalls.last⟩
  rw [values_concat,none',recalls.items]
  exact congrArg newest (List.append_nil _).symm

theorem Current.aside {calls : List Call} {value : UserMemory} (current : Current calls value)
    {call : Call} (none' : call.saves = none) : Current (calls ++ [call]) value :=
  ⟨current.settled,current.orders.aside none',current.courses.aside none'⟩

theorem Recalls.merge {listed : Listed} {calls : List Call} {value : UserMemory}
    (recalls : Recalls listed calls value) (args : SaveArgs) (now : Text) :
    Recalls listed (calls ++ [.save args now]) (toValue (merge value args now)) := by
  have saves : values listed.saved (calls ++ [.save args now]) =
      values listed.saved calls ++ (listed.saved args).toList := values_concat _ _ _
  cases saved : listed.saved args with
  | none =>
    constructor
    · rw [listed.items_merge,saves,saved,recalls.items]
      exact (newest_short _).trans (congrArg newest (List.append_nil _).symm)
    · rw [listed.items_merge,listed.last_merge,saved,Option.none_or,← recalls.last,recalls.items]
      exact congrArg List.head? (newest_short _)
  | some text =>
    have solid := listed.saved_ne args text saved
    have items : listed.items (toValue (LongTermMemory.merge value args now)) =
        (text::(listed.items value).filter (fun other => other ≠ text)).take MAX_RECENT := by
      rw [listed.items_merge,saved,remember,prependUnique,if_neg solid,List.take_take,min_self]
    constructor
    · rw [items,saves,saved,recalls.items]
      exact (newest_concat _ _).symm
    · rw [items,listed.last_merge,saved]
      rfl

theorem Current.merge {calls : List Call} {value : UserMemory} (current : Current calls value)
    (args : SaveArgs) (now : Text) :
    Current (calls ++ [.save args now]) (toValue (merge value args now)) :=
  ⟨settled_merge current.settled.from_value args now,current.orders.merge args now,
    current.courses.merge args now⟩

theorem Current.blank : Current [] blank := ⟨⟨rfl,rfl⟩,⟨rfl,rfl⟩,⟨rfl,rfl⟩⟩

/-! ### Runs -/

section
variable {userId : Text} (persistent : isPersistentUser userId = true) {calls : List Call}
  {stores : Stores} (kept : Kept calls stores)
include persistent kept

theorem Kept.load :
    Current calls (loadUserMemory userId stores everyAccess).1 ∧
      Kept calls (loadUserMemory userId stores everyAccess).2 := by
  unfold loadUserMemory
  rw [if_neg (by simp [persistent])]
  cases hot : stores.hot with
  | some value =>
    have current := kept.hot value hot
    dsimp only
    rw [current.settled.from_value]
    exact ⟨current,kept⟩
  | none =>
    cases cold : stores.cold with
    | none => exact ⟨(kept.fresh cold).2,kept⟩
    | some archived =>
      have current := kept.cold archived cold
      simp only [Option.filter,everyAccess,if_true]
      rw [current.settled.from_value,current.settled.to_value]
      refine ⟨current,⟨fun value same => ?_,fun value same => ?_,fun none' => ?_⟩⟩
      · obtain rfl := Option.some.inj same
        exact current
      · obtain rfl := Option.some.inj same
        exact current
      · cases none'

theorem Kept.step (call : Call) : Kept (calls ++ [call]) (step userId stores call) := by
  have aside {stores : Stores} (kept : Kept calls stores) (none' : call.saves = none) :
      Kept (calls ++ [call]) stores :=
    ⟨fun value here => (kept.hot value here).aside none',fun value here => (kept.cold value here).aside none',
      fun gone => (kept.fresh gone).imp_right (fun current => current.aside none')⟩
  cases call with
  | load => exact aside (kept.load persistent).2 rfl
  | expire => exact aside ⟨nofun,kept.cold,fun gone => ⟨rfl,(kept.fresh gone).2⟩⟩ rfl
  | save args now =>
    have current := (kept.load persistent).1.merge args now
    change Kept _ (saveUserMemory userId true stores everyAccess args now)
    unfold saveUserMemory
    rw [if_neg (by simp [persistent])]
    refine ⟨fun value same => ?_,fun value same => ?_,nofun⟩
    · obtain rfl := Option.some.inj same
      exact current
    · obtain rfl := Option.some.inj same
      exact current

end

private theorem kept_run {userId : Text} (persistent : isPersistentUser userId = true) (calls : List Call) :
    Kept calls (run (step userId) ⟨none,none⟩ calls) := by
  induction calls using List.reverseRecOn with
  | nil => exact ⟨nofun,nofun,fun _ => ⟨rfl,.blank⟩⟩
  | append_singleton calls call ih =>
    rw [run_append]
    exact ih.step persistent call

/-- After any calls, what a load gives and what either store holds has the latest values saved, the
newest first and in the field of the last one. -/
theorem recent_lists (userId : Text) (persistent : isPersistentUser userId = true) (calls : List Call)
    (value : UserMemory)
    (held : value = (loadUserMemory userId (run (step userId) ⟨none,none⟩ calls) everyAccess).1 ∨
      (run (step userId) ⟨none,none⟩ calls).hot = some value ∨
        (run (step userId) ⟨none,none⟩ calls).cold = some value) :
    (value.recentOrderNos = newest (values SaveArgs.order calls) ∧
      value.recentOrderNos.head? = value.lastOrderNo) ∧
    value.recentCourseNames = newest (values SaveArgs.course calls) ∧
      value.recentCourseNames.head? = value.lastCourseName := by
  have kept := kept_run persistent calls
  obtain ⟨_,orders,courses⟩ : Current calls value := by
    rcases held with rfl | hot | cold
    · exact (kept.load persistent).1
    · exact kept.hot value hot
    · exact kept.cold value cold
  exact ⟨⟨orders.items,orders.last⟩,courses.items,courses.last⟩

def orderSaved (number : Text) : Call := .save ⟨none,some number,none,none,none⟩ []

theorem recent_lists_twice :
    let calls := [orderSaved ['A'],.expire,orderSaved ['B'],.load,.expire,orderSaved ['A']]
    let value := (loadUserMemory ['u'] (run (step ['u']) ⟨none,none⟩ calls) everyAccess).1
    isPersistentUser ['u'] = true ∧ newest (values SaveArgs.order calls) = [['A'],['B']] ∧
      value.recentOrderNos = newest (values SaveArgs.order calls) :=
  ⟨by decide,by decide,(recent_lists ['u'] (by decide) _ _ (.inl rfl)).1.1⟩

end CustomerService.RecentLists
