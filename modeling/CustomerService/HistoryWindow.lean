import CustomerService.SummaryFacts
import Mathlib.Data.Nat.Find
import Mathlib.Algebra.Order.Ring.Int

/-! The messages of the conversation that go into a prompt: the newest ones, up to a token budget. -/
namespace CustomerService.HistoryWindow

open SummaryFacts

structure Settings where
  historyTokenBudget : Int
  historyMinMessages : Int

/-- The limits of a call; without settings, the defaults of the module. -/
def historyLimits (settings : Option Settings) (tokenBudget minKeep : Option Int) : Int × Int :=
  (max 1 (tokenBudget.getD ((settings.map Settings.historyTokenBudget).getD 8000)),
    max 1 (minKeep.getD ((settings.map Settings.historyMinMessages).getD 10)))

section
variable (settings : Option Settings) (countTokens : Text → Nat)

def messageTokenCount (message : Message) : Nat := countTokens message.text + 4

/-- The loop over the messages from the last one on, with those selected so far and their cost. -/
def selectLoop (budget keep : Int) : List Message → List Message → Nat → List Message
  | selected, [], _ => selected
  | selected, message::earlier, total =>
    let cost := messageTokenCount countTokens message
    if selected ≠ [] ∧ budget < (total + cost : Nat) ∧ keep ≤ selected.length then selected
    else selectLoop budget keep (selected ++ [message]) earlier (total + cost)

def selectMessagesByTokens (messages : List Message) (tokenBudget minKeep : Option Int) : List Message :=
  if messages = [] then []
  else
    let limits := historyLimits settings tokenBudget minKeep
    (selectLoop countTokens limits.1 limits.2 [] messages.reverse 0).reverse

/-- `items[start:]`; a negative start counts from the end. -/
def sliceFrom {Item : Type*} (items : List Item) (start : Int) : List Item :=
  items.drop (if start < 0 then (items.length + start).toNat else start.toNat)

def recentMessages (messages : List Message) (limit tokenBudget minKeep : Option Int) : List Message :=
  let selected := selectMessagesByTokens settings countTokens messages tokenBudget minKeep
  match limit with
  | some limit => if 0 ≤ limit then sliceFrom selected (-limit) else selected
  | none => selected

def overflowMessages (messages : List Message) (tokenBudget minKeep : Option Int) : List Message :=
  if messages = [] then []
  else
    let selected := selectMessagesByTokens settings countTokens messages tokenBudget minKeep
    if messages.length ≤ selected.length then [] else messages.take (messages.length - selected.length)

/-- The id of a `RemoveMessage` for a message; without an id, or with an empty one, there is none. -/
def removal (message : Message) : Option Text := message.id.filter (fun id => !id.isEmpty)

def trimMessageUpdates (messages : List Message) (keep tokenBudget minKeep : Option Int) : List Text :=
  if messages = [] then []
  else
    let selected := selectMessagesByTokens settings countTokens messages tokenBudget (keep.or minKeep)
    if messages.length ≤ selected.length then []
    else (messages.take (messages.length - selected.length)).filterMap removal

/-- What the reducer of the message list does with a list of removals. -/
def removeMessages (removals : List Text) (messages : List Message) : List Message :=
  messages.filter (fun message => !(message.id.any removals.contains))

/-! The window that is meant. -/

def cost (messages : List Message) : Nat := (messages.map (messageTokenCount countTokens)).sum

/-- The length of the longest suffix that fits the budget. -/
def fitting (budget : Int) (messages : List Message) : Nat :=
  Nat.findGreatest (fun count => (cost countTokens (messages.rtake count) : Int) ≤ budget) messages.length

def windowLength (budget : Int) (keep : Nat) (messages : List Message) : Nat :=
  max (fitting countTokens budget messages) (min keep messages.length)

def window (budget : Int) (keep : Nat) (messages : List Message) : List Message :=
  messages.rtake (windowLength countTokens budget keep messages)

private theorem cost_append (first second : List Message) :
    cost countTokens (first ++ second) = cost countTokens first + cost countTokens second := by
  rw [cost,List.map_append,List.sum_append]
  rfl

theorem cost_reverse (messages : List Message) : cost countTokens messages.reverse = cost countTokens messages := by
  rw [cost,List.map_reverse,List.sum_reverse]
  rfl

private theorem cost_take_le (messages : List Message) {first second : Nat} (le : first ≤ second) :
    cost countTokens (messages.take first) ≤ cost countTokens (messages.take second) := by
  obtain ⟨more,rfl⟩ := Nat.exists_eq_add_of_le le
  rw [List.take_add,cost_append]
  exact Nat.le_add_right _ _

private theorem fitting_eq (budget : Int) (messages : List Message) :
    fitting countTokens budget messages.reverse =
      Nat.findGreatest (fun count => (cost countTokens (messages.take count) : Int) ≤ budget) messages.length := by
  unfold fitting
  rw [List.length_reverse]
  congr 1
  funext count
  rw [List.rtake_eq_reverse_take_reverse,List.reverse_reverse,cost_reverse]

variable {countTokens} {budget : Int} {keep : Nat}

private theorem windowLength_le (messages : List Message) :
    windowLength countTokens budget keep messages ≤ messages.length :=
  max_le (Nat.findGreatest_le _) (min_le_right _ _)

private theorem lt_windowLength {messages : List Message} {count : Nat} (less : count < messages.length)
    (room : (cost countTokens (messages.take (count + 1)) : Int) ≤ budget ∨ count < keep) :
    count < windowLength countTokens budget keep messages.reverse := by
  rw [windowLength,fitting_eq,List.length_reverse]
  rcases room with fits | kept
  · exact lt_of_lt_of_le (Nat.le_findGreatest less fits) (le_max_left _ _)
  · exact lt_of_lt_of_le (lt_min kept less) (le_max_right _ _)

private theorem windowLength_le_of_over {messages : List Message} {count : Nat} (kept : keep ≤ count)
    (beyond : budget < (cost countTokens (messages.take (count + 1)) : Int)) :
    windowLength countTokens budget keep messages.reverse ≤ count := by
  rw [windowLength,fitting_eq]
  refine max_le ?_ ((min_le_left _ _).trans kept)
  by_contra more
  have fits := Nat.findGreatest_of_ne_zero rfl (by omega :
    Nat.findGreatest (fun count => (cost countTokens (messages.take count) : Int) ≤ budget) messages.length ≠ 0)
  have within := @cost_take_le countTokens messages (count + 1) _ (Nat.lt_of_not_le more)
  omega

private theorem selectLoop_window {selected earlier : List Message} (some' : 1 ≤ keep)
    (less : selected.length ≤ windowLength countTokens budget keep (selected ++ earlier).reverse) :
    selectLoop countTokens (max 1 budget) keep selected earlier (cost countTokens selected) =
      (selected ++ earlier).take (windowLength countTokens budget keep (selected ++ earlier).reverse) := by
  induction earlier generalizing selected with
  | nil =>
    rw [List.append_nil] at less ⊢
    exact (List.take_of_length_le less).symm
  | cons message earlier ih =>
    have next : selected ++ message::earlier = (selected ++ [message]) ++ earlier := by simp
    have inside : selected.length < (selected ++ message::earlier).length := by simp
    have taken : (selected ++ message::earlier).take (selected.length + 1) = selected ++ [message] := by
      rw [next]
      exact List.take_left' (List.length_append ..)
    have paid : cost countTokens (selected ++ [message]) =
        cost countTokens selected + messageTokenCount countTokens message := by
      rw [cost_append]
      rfl
    have overhead : 4 ≤ messageTokenCount countTokens message := Nat.le_add_left _ _
    unfold selectLoop
    dsimp only
    split_ifs with stops
    · obtain ⟨_,beyond,enough⟩ := stops
      have least := @windowLength_le_of_over countTokens budget keep (selected ++ message::earlier)
        selected.length (by omega) (by rw [taken,paid]; omega)
      rw [Nat.le_antisymm least less,List.take_left]
    · rw [← paid,next]
      refine ih ?_
      rw [← next,List.length_append,List.length_singleton]
      refine lt_windowLength inside ?_
      rw [taken,paid]
      by_cases first : selected = []
      · subst first
        exact Or.inr some'
      · by_contra none'
        refine stops ⟨first,?_,?_⟩ <;> omega

theorem selectMessagesByTokens_window (settings : Option Settings) (some' : 1 ≤ keep) (messages : List Message) :
    selectMessagesByTokens settings countTokens messages (some budget) (some keep) =
      window countTokens budget keep messages := by
  have limit : max 1 (keep : Int) = keep := by omega
  have loop := @selectLoop_window countTokens budget keep [] messages.reverse some' (Nat.zero_le _)
  rw [List.nil_append,List.reverse_reverse] at loop
  rw [window,List.rtake_eq_reverse_take_reverse,← loop]
  unfold selectMessagesByTokens
  split_ifs with none'
  · subst none'
    rfl
  · simp only [historyLimits,Option.getD_some,limit]
    rfl

private theorem windowLength_pos (some' : 1 ≤ keep) {messages : List Message} (filled : messages ≠ []) :
    1 ≤ windowLength countTokens budget keep messages :=
  (le_min some' (List.length_pos_iff.mpr filled)).trans (le_max_right _ _)

private theorem length_window (messages : List Message) :
    (window countTokens budget keep messages).length = windowLength countTokens budget keep messages := by
  have within := @windowLength_le countTokens budget keep messages
  rw [window,List.rtake,List.length_drop]
  omega

/-! The overflow. -/

variable (settings : Option Settings)

private theorem overflowMessages_eq (some' : 1 ≤ keep) (messages : List Message) :
    overflowMessages settings countTokens messages (some budget) (some keep) =
      messages.take (messages.length - windowLength countTokens budget keep messages) := by
  unfold overflowMessages
  rw [selectMessagesByTokens_window settings some']
  dsimp only
  rw [length_window]
  split_ifs with none' whole
  · rw [none',List.take_nil]
  · rw [Nat.sub_eq_zero_of_le whole,List.take_zero]
  · rfl

private theorem trimMessageUpdates_eq (messages : List Message) (tokenBudget minKeep : Option Int) :
    trimMessageUpdates settings countTokens messages none tokenBudget minKeep =
      (overflowMessages settings countTokens messages tokenBudget minKeep).filterMap removal := by
  unfold trimMessageUpdates overflowMessages
  by_cases none' : messages = []
  · rw [if_pos none',if_pos none',List.filterMap_nil]
  · rw [if_neg none',if_neg none']
    dsimp only [Option.none_or]
    split_ifs <;> rfl

/-- Each message of the overflow has an id, and no selected message has the same. -/
def Owned (overflow selected : List Message) : Prop :=
  ∀ message ∈ overflow, ∃ id, removal message = some id ∧ ∀ other ∈ selected, other.id ≠ some id

private theorem removal_eq_some {message : Message} {id : Text} :
    removal message = some id ↔ message.id = some id ∧ id ≠ [] := by
  simp [removal,Option.filter_eq_some_iff]

private theorem removeMessages_prefix (overflow selected : List Message) :
    removeMessages (overflow.filterMap removal) (overflow ++ selected) = selected ↔ Owned overflow selected := by
  have hit (message : Message) : (message.id.any (overflow.filterMap removal).contains) = true ↔
      ∃ id, message.id = some id ∧ ∃ gone ∈ overflow, removal gone = some id := by
    simp only [Option.any_eq_true,List.contains_iff_mem,List.mem_filterMap]
  have stays (kept : ∀ other ∈ selected, ¬(other.id.any (overflow.filterMap removal).contains) = true) :
      selected.filter (fun message => !(message.id.any (overflow.filterMap removal).contains)) = selected :=
    List.filter_eq_self.mpr (fun other listed => by rw [Bool.eq_false_iff.mpr (kept other listed)]; rfl)
  rw [removeMessages,List.filter_append]
  constructor
  · intro left
    have kept : ∀ other ∈ selected, ¬(other.id.any (overflow.filterMap removal).contains) = true := by
      intro other listed
      rw [← left,← List.filter_append] at listed
      simpa using (List.mem_filter.mp listed).2
    have none' : overflow.filter (fun message => !(message.id.any (overflow.filterMap removal).contains)) = [] := by
      rw [stays kept] at left
      exact List.append_left_eq_self.mp left
    intro message inside
    have gone : (message.id.any (overflow.filterMap removal).contains) = true := by
      simpa using List.filter_eq_nil_iff.mp none' message inside
    obtain ⟨id,same,other,_,named⟩ := (hit message).mp gone
    refine ⟨id,removal_eq_some.mpr ⟨same,(removal_eq_some.mp named).2⟩,fun later listed equal => ?_⟩
    exact kept later listed ((hit later).mpr ⟨id,equal,message,inside,
      removal_eq_some.mpr ⟨same,(removal_eq_some.mp named).2⟩⟩)
  · intro owned
    have none' : overflow.filter (fun message => !(message.id.any (overflow.filterMap removal).contains)) = [] := by
      refine List.filter_eq_nil_iff.mpr (fun message inside => ?_)
      obtain ⟨id,named,_⟩ := owned message inside
      simp [(hit message).mpr ⟨id,(removal_eq_some.mp named).1,message,inside,named⟩]
    have kept : ∀ other ∈ selected, ¬(other.id.any (overflow.filterMap removal).contains) = true := by
      intro other listed gone
      obtain ⟨id,same,message,inside,named⟩ := (hit other).mp gone
      obtain ⟨id',named',apart⟩ := owned message inside
      rw [named] at named'
      exact apart other listed (same.trans named')
    rw [none',stays kept,List.nil_append]

/-- A list as the reducer keeps it: every message has an id, and no two the same. -/
structure Identified (messages : List Message) : Prop where
  named : ∀ message ∈ messages, (removal message).isSome = true
  distinct : (messages.map Message.id).Nodup

theorem Identified.owned {overflow selected : List Message} (identified : Identified (overflow ++ selected)) :
    Owned overflow selected := by
  intro message inside
  obtain ⟨id,named⟩ := Option.isSome_iff_exists.mp (identified.named message (List.mem_append_left _ inside))
  refine ⟨id,named,fun other listed same => ?_⟩
  have distinct := identified.distinct
  rw [List.map_append] at distinct
  exact (List.nodup_append.mp distinct).2.2 _ (List.mem_map_of_mem inside) _ (List.mem_map_of_mem listed)
    ((removal_eq_some.mp named).1.trans same.symm)

/-! The window of the four functions. -/

structure Windowed (countTokens : Text → Nat) (messages : List Message) (budget : Int) (keep limit : Nat) :
    Prop where
  selected : selectMessagesByTokens settings countTokens messages (some budget) (some keep) =
    messages.rtake (windowLength countTokens budget keep messages)
  recent : recentMessages settings countTokens messages (some limit) (some budget) (some keep) =
    messages.rtake (min limit (windowLength countTokens budget keep messages))
  whole : overflowMessages settings countTokens messages (some budget) (some keep) ++
    selectMessagesByTokens settings countTokens messages (some budget) (some keep) = messages
  removed : trimMessageUpdates settings countTokens messages none (some budget) (some keep) =
    (overflowMessages settings countTokens messages (some budget) (some keep)).filterMap removal
  left : removeMessages (trimMessageUpdates settings countTokens messages none (some budget) (some keep)) messages =
      selectMessagesByTokens settings countTokens messages (some budget) (some keep) ↔
    Owned (overflowMessages settings countTokens messages (some budget) (some keep))
      (selectMessagesByTokens settings countTokens messages (some budget) (some keep))

private theorem recentMessages_iff (some' : 1 ≤ keep) (messages : List Message) (limit : Nat) :
    recentMessages settings countTokens messages (some limit) (some budget) (some keep) =
        messages.rtake (min limit (windowLength countTokens budget keep messages)) ↔
      limit ≠ 0 ∨ messages = [] := by
  have start : recentMessages settings countTokens messages (some limit) (some budget) (some keep) =
      sliceFrom (window countTokens budget keep messages) (-limit) := by
    rw [recentMessages,selectMessagesByTokens_window settings some']
    exact if_pos (Int.natCast_nonneg limit)
  rw [start]
  cases limit with
  | zero =>
    have nothing : messages.rtake (min 0 (windowLength countTokens budget keep messages)) = [] := by
      rw [Nat.zero_min,List.rtake_zero]
    have whole : sliceFrom (window countTokens budget keep messages) (-(0 : Nat)) =
        window countTokens budget keep messages := rfl
    rw [nothing,whole,← List.length_eq_zero_iff,length_window]
    constructor
    · intro empty
      refine Or.inr (by_contra (fun filled => ?_))
      have some'' : 1 ≤ windowLength countTokens budget keep messages := windowLength_pos some' filled
      omega
    · intro holds
      rw [holds.resolve_left (fun different => different rfl)]
      exact Nat.le_zero.mp (windowLength_le [])
  | succ less =>
    refine iff_of_true ?_ (Or.inl (Nat.succ_ne_zero less))
    have negative : -((less + 1 : Nat) : Int) < 0 := by omega
    have within := @windowLength_le countTokens budget keep messages
    rw [sliceFrom,if_pos negative,length_window,window,List.rtake,List.rtake,List.drop_drop]
    congr 1
    omega

theorem windowed_iff (countTokens : Text → Nat) (messages : List Message) (budget : Int) (keep limit : Nat)
    (some' : 1 ≤ keep) :
    Windowed settings countTokens messages budget keep limit ↔ limit ≠ 0 ∨ messages = [] := by
  have selected := @selectMessagesByTokens_window countTokens budget keep settings some' messages
  have overflow := @overflowMessages_eq countTokens budget keep settings some' messages
  have whole : overflowMessages settings countTokens messages (some budget) (some keep) ++
      selectMessagesByTokens settings countTokens messages (some budget) (some keep) = messages := by
    rw [overflow,selected]
    exact List.take_append_drop _ messages
  constructor
  · intro windowed
    exact (recentMessages_iff settings some' messages limit).mp windowed.recent
  · intro holds
    refine ⟨selected,(recentMessages_iff settings some' messages limit).mpr holds,whole,
      trimMessageUpdates_eq settings messages _ _,?_⟩
    have left := removeMessages_prefix (overflowMessages settings countTokens messages (some budget) (some keep))
      (selectMessagesByTokens settings countTokens messages (some budget) (some keep))
    rw [whole] at left
    rw [trimMessageUpdates_eq]
    exact left

def shown : List Message :=
  [⟨.human,some ['u','0'],['a','b','c','d'],0,false⟩,⟨.ai,some ['a','0'],['e'],1,false⟩,
    ⟨.human,some ['u','1'],['f'],2,false⟩]

theorem windowed_shown : Windowed none List.length shown 12 1 1 :=
  (windowed_iff none List.length shown 12 1 1 (by decide)).mpr (Or.inl (by decide))

/-- With a limit of zero the slice starts at the first message. -/
theorem no_window_at_zero : recentMessages none List.length shown (some 0) (some 12) (some 1) ≠ [] ∧
    ¬Windowed none List.length shown 12 1 0 := by
  have filled : recentMessages none List.length shown (some 0) (some 12) (some 1) ≠ [] := by decide
  exact ⟨filled,fun windowed => filled (windowed.recent.trans (by rw [Nat.zero_min,List.rtake_zero]))⟩

end

end CustomerService.HistoryWindow
