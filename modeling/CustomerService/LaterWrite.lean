import CustomerService.LabelReading
import CustomerService.CompressionConserves

/-! Which of two exclusive labels a compression leaves in the summary: the one folded
last, which need not be the one written last. -/
namespace CustomerService.SummaryFacts

open Text

/-! Contributions of parts of a list of messages. -/

section
variable {slots : Option SessionSlots}

private theorem contributions_append (view : StructuredSummary → List Text) (first second : List Message) :
    contributions view slots (first ++ second) =
      contributions view slots first ++ contributions view slots second := by
  simp [contributions,List.flatMap_append,cleaned_append]

/-- The label of the group that the last contributing message contributes. -/
def lastLabel (group : List Text) (slots : Option SessionSlots) (messages : List Message) :
    Option Text :=
  lastIn group (contributions (·.confirmed) slots messages)

private theorem lastLabel_append (group : List Text) (first second : List Message) :
    lastLabel group slots (first ++ second) =
      (lastLabel group slots second).or (lastLabel group slots first) := by
  rw [lastLabel,contributions_append,lastIn_append]
  rfl

private theorem lastLabel_none_of_subset {group : List Text} {part messages : List Message}
    (inside : part ⊆ messages) (nothing : lastLabel group slots messages = none) :
    lastLabel group slots part = none := by
  rw [lastLabel,lastIn_none] at nothing ⊢
  intro fact member
  obtain ⟨solid,item,listed,rfl⟩ := mem_cleaned member
  obtain ⟨message,here,found⟩ := List.mem_flatMap.mp listed
  refine nothing _ (List.mem_filter.mpr ⟨List.mem_map_of_mem (List.mem_flatMap.mpr
    ⟨message,inside here,found⟩),decide_eq_true solid.1⟩)

private theorem lastLabel_filter {group : List Text} {form : Message → Message} {choice : Message → Bool}
    {messages : List Message}
    (nothing : lastLabel group slots ((messages.filter choice).map form) = none) :
    lastLabel group slots (messages.map form) =
      lastLabel group slots ((messages.filter (fun message => !choice message)).map form) := by
  induction messages using List.reverseRecOn with
  | nil => rfl
  | append_singleton messages last ih =>
    rw [List.filter_append,List.map_append,lastLabel_append,Option.or_eq_none_iff] at nothing
    rw [List.filter_append,List.map_append,List.map_append,lastLabel_append,lastLabel_append,
      ih nothing.2]
    cases chosen : choice last with
    | false => simp [chosen]
    | true =>
      have silent : lastLabel group slots [form last] = none := by simpa [chosen] using nothing.1
      have skipped : [last].filter (fun message => !choice message) = [] := by simp [chosen]
      rw [skipped,List.map_cons,List.map_nil,silent]
      rfl

end

/-! The messages that leave, in the order of the input. -/

/-- The messages of the list that left the window, in the form in which they left. -/
def departed (result : CompressResult) (messages : List Message) : List Message :=
  messages.flatMap (fun message =>
    (result.summarized ++ result.discarded).filter (fun out => out.id = message.id))

private theorem filter_id {messages : List Message} {message : Message}
    (ids : (messages.map Message.id).Nodup) (member : message ∈ messages) :
    messages.filter (fun other => other.id = message.id) = [message] := by
  have same : messages.filter (fun other => other.id = message.id) =
      messages.filter (fun other => other = message) := by
    refine List.filter_congr (fun other here => ?_)
    rw [decide_eq_decide]
    exact ⟨List.inj_on_of_nodup_map ids here member,fun same => by rw [same]⟩
  rw [same,List.filter_eq,List.count_eq_one_of_mem (List.Nodup.of_map _ ids) member]
  rfl

private theorem departed_eq {messages : List Message} (ids : (messages.map Message.id).Nodup)
    {result : CompressResult} {choice : Message → Bool} {form : Message → Message}
    (keeps : ∀ message, (form message).id = message.id)
    (parts : (result.summarized ++ result.discarded).Perm ((messages.filter choice).map form))
    {part : List Message} (inside : part ⊆ messages) :
    departed result part = (part.filter choice).map form := by
  have one : ∀ message ∈ part,
      (result.summarized ++ result.discarded).filter (fun out => out.id = message.id) =
        if choice message then [form message] else [] := by
    intro message member
    have picked := parts.filter (fun out => decide (out.id = message.id))
    have form_id : (fun out : Message => decide (out.id = message.id)) ∘ form =
        fun other => decide (other.id = message.id) := by
      funext other
      simp [keeps]
    rw [List.filter_map,form_id,List.filter_comm,filter_id ids (inside member)] at picked
    cases chosen : choice message with
    | true => simpa [chosen] using picked
    | false => simpa [chosen] using picked
  rw [departed,List.flatMap_congr one]
  clear one inside
  induction part with
  | nil => rfl
  | cons message rest ih =>
    rw [List.flatMap_cons,ih]
    cases chosen : choice message <;> simp [chosen]

section
variable {Score : Type*} [LinearOrder Score] [Zero Score] (services : Services Score)
  (options : Options Score) {messages : List Message} (arrived : Arrived messages)

/-- Discarded messages leave as they are, others compacted. -/
def leftAs (messages : List Message) (message : Message) : Message :=
  if message ∈ graded services options messages .discard (placedTurns messages) then message
  else compactRagMessage message

private theorem leftAs_id (message : Message) : (leftAs services options messages message).id = message.id := by
  unfold leftAs
  split_ifs
  · rfl
  · exact compact_id message

include arrived

private theorem leftAs_turn {turn : List Placed} (listed : turn ∈ placedTurns messages) {message : Message}
    (member : message ∈ turn.map Prod.snd) : leftAs services options messages message =
      if grade services options messages turn = .discard then message
      else compactRagMessage message := by
  unfold leftAs
  refine if_congr ?_ rfl rfl
  rw [mem_graded]
  constructor
  · rintro ⟨other,here,same,also⟩
    rwa [turn_unique (List.Nodup.of_map _ arrived.ids) listed here member also]
  · exact fun same => ⟨turn,listed,same,member⟩

private theorem leftAs_kept {message : Message} (member : message ∈ messages)
    (kept : keptByGrading services options messages message = true) :
    leftAs services options messages message = compactRagMessage message := by
  by_cases system : message.kind = .system
  · unfold leftAs
    split_ifs
    · exact (compact_system system).symm
    · rfl
  · obtain ⟨turn,listed,item,inside,rfl⟩ : ∃ turn ∈ placedTurns messages, ∃ item ∈ turn,
        item.2 = message := by
      have here : message ∈ (placedTurns messages).flatten.map Prod.snd := by
        rw [flatten_placedTurns]
        simpa using ⟨member,system⟩
      obtain ⟨item,flat,same⟩ := List.mem_map.mp here
      obtain ⟨turn,listed,inside⟩ := List.mem_flatten.mp flat
      exact ⟨turn,listed,item,inside,same⟩
    have within : item.2 ∈ turn.map Prod.snd := List.mem_map_of_mem inside
    rw [keptByGrading_turn services options arrived listed within,decide_eq_true_iff] at kept
    rw [leftAs_turn services options arrived listed within,kept]
    rfl

private theorem keptBy_leftAs {choice : Message → Bool} (kept : ∀ message, choice message = true →
      keptByGrading services options messages message = true) :
    keptBy messages choice = (messages.filter choice).map (leftAs services options messages) := by
  refine List.map_congr_left (fun message listed => ?_)
  obtain ⟨member,chosen⟩ := List.mem_filter.mp listed
  exact (leftAs_kept services options arrived member (kept message chosen)).symm

private theorem leaving_eq : (placedTurns messages).flatMap (leaving services options messages) =
    (messages.filter (fun message => !keptByGrading services options messages message)).map
      (leftAs services options messages) := by
  have general (turns : List (List Placed)) (listed : ∀ turn ∈ turns, turn ∈ placedTurns messages) :
      turns.flatMap (leaving services options messages) =
        ((turns.filter (fun turn =>
          grade services options messages turn ≠ .keep)).flatten.map Prod.snd).map
            (leftAs services options messages) := by
    induction turns with
    | nil => rfl
    | cons turn rest ih =>
      have tail := ih (fun other here => listed other (List.mem_cons_of_mem _ here))
      have form : ∀ message ∈ turn.map Prod.snd, leftAs services options messages message =
          if grade services options messages turn = .discard then message
          else compactRagMessage message := fun message =>
        leftAs_turn services options arrived (listed turn List.mem_cons_self)
      rw [List.flatMap_cons,tail]
      cases which : grade services options messages turn with
      | keep => simp [leaving,which]
      | discard =>
        have own : (turn.map Prod.snd).map (leftAs services options messages) = turn.map Prod.snd := by
          refine (List.map_congr_left (fun message member => ?_)).trans (List.map_id _)
          rw [form message member,if_pos which]
          rfl
        simp only [leaving,which]
        rw [List.filter_cons_of_pos (by simp [which]),List.flatten_cons,List.map_append,
          List.map_append,own]
      | summarize =>
        have own : (turn.map Prod.snd).map (leftAs services options messages) =
            (turn.map Prod.snd).map compactRagMessage := by
          refine List.map_congr_left (fun message member => ?_)
          rw [form message member,which]
          rfl
        simp only [leaving,which]
        rw [List.filter_cons_of_pos (by simp [which]),List.flatten_cons,List.map_append,
          List.map_append,own]
  rw [gone_grading services options arrived]
  exact general _ (fun _ => id)

private theorem departed_perm {summary : Text} {first second : Message → Bool}
    (run : Stages services options messages summary first second) :
    ((finalizeCompression services options (planOver services options messages) summary).summarized ++
        (finalizeCompression services options (planOver services options messages) summary).discarded).Perm
      ((messages.filter (fun message => !second message)).map (leftAs services options messages)) := by
  have form {which : Grade} {message : Message}
      (member : message ∈ graded services options messages which (placedTurns messages)) :
      leftAs services options messages message =
        if which = .discard then message else compactRagMessage message := by
    obtain ⟨turn,listed,same,inside⟩ := (mem_graded services options).mp member
    rw [leftAs_turn services options arrived listed inside,same]
  have scored : (graded services options messages .summarize (placedTurns messages)).map
      (leftAs services options messages) =
        (graded services options messages .summarize (placedTurns messages)).map compactRagMessage :=
    List.map_congr_left (fun message member => (form member).trans (if_neg (by simp)))
  have discarded : (graded services options messages .discard (placedTurns messages)).map
      (leftAs services options messages) =
        graded services options messages .discard (placedTurns messages) :=
    (List.map_congr_left (fun message member => (form member).trans (if_pos rfl))).trans (List.map_id _)
  have gone := (gone_perm services options arrived run).map (leftAs services options messages)
  rw [List.map_append,List.map_append,List.map_append,scored,discarded,
    ← keptBy_leftAs services options arrived (fun message both => (Bool.and_eq_true_iff.mp both).1),
    ← keptBy_leftAs services options arrived (fun message both =>
      run.first_le message (Bool.and_eq_true_iff.mp both).1)] at gone
  simpa only [finalizeCompression,planOver,run.plan,run.final,grading_spec,List.append_assoc] using gone

/-- The order of the folds: first what scored low, then what went for the budget, each
in the order of the input. -/
theorem folded_order {summary : Text} {first second : Message → Bool}
    (run : Stages services options messages summary first second) :
    (planOver services options messages).factOverflow ++
        keptBy messages (fun message => first message && !second message) =
      (messages.filter (fun message => !keptByGrading services options messages message)).map
          (leftAs services options messages) ++
        (messages.filter (fun message =>
          keptByGrading services options messages message && !second message)).map
            (leftAs services options messages) := by
  have budget : messages.filter (fun message =>
        keptByGrading services options messages message && !second message) =
      messages.filter (fun message =>
          keptByGrading services options messages message && !first message) ++
        messages.filter (fun message => first message && !second message) := by
    have person {message : Message} (member : message ∈ messages) (gone : second message = false) :
        message.kind ≠ .system := fun system => by
      rw [run.divides.systems message member system] at gone
      cases gone
    have oldest := congrArg (List.filter (fun message => !second message)) run.oldest
    rw [List.filter_append,List.filter_filter,List.filter_filter,List.filter_filter] at oldest
    refine Eq.trans (List.filter_congr (fun message member => ?_)) (oldest.trans ?_)
    · cases gone : second message with
      | true => simp
      | false => simp [person member gone]
    · congr 1
      · refine List.filter_congr (fun message _ => ?_)
        cases stays : second message with
        | true => simp [run.second_le message stays]
        | false => simp
      · refine List.filter_congr (fun message member => ?_)
        cases gone : second message with
        | true => simp
        | false => simp [person member gone]
  have overflow : (planOver services options messages).factOverflow =
      (placedTurns messages).flatMap (leaving services options messages) ++
        keptBy messages (fun message =>
          keptByGrading services options messages message && !first message) := by
    simp only [planOver,run.plan,grading_spec]
  rw [overflow,leaving_eq services options arrived,budget,List.map_append,List.append_assoc,
    keptBy_leftAs services options arrived (fun message both => (Bool.and_eq_true_iff.mp both).1),
    keptBy_leftAs services options arrived (fun message both =>
      run.first_le message (Bool.and_eq_true_iff.mp both).1)]

end

/-! The folds of a compression. -/

section
variable {slots : Option SessionSlots} {maxChars : Option Int}

def foldIf (slots : Option SessionSlots) (maxChars : Option Int) (text : Text)
    (overflow : List Message) : Text :=
  if overflow = [] then text else foldSessionSummary (some text) overflow maxChars slots

def foldRenderings (slots : Option SessionSlots) (text : Text) (overflow : List Message) :
    List Rendering :=
  if overflow = [] then [] else [foldRendering slots text overflow]

def runRenderings (slots : Option SessionSlots) (maxChars : Option Int) (existing : Text)
    (overflow extra : List Message) : List Rendering :=
  foldRenderings slots existing overflow ++
    foldRenderings slots (foldIf slots maxChars existing overflow) extra ++
    [finalRendering slots (foldIf slots maxChars (foldIf slots maxChars existing overflow) extra)]

variable {group : List Text} (listed : group ∈ exclusiveLabelGroups) {label text : Text}
  {overflow : List Message} (names : UnbrokenNames overflow)
  (uncut : ∀ rendering ∈ foldRenderings slots text overflow, Uncut rendering.summary maxChars)
include listed names uncut

private theorem carries_foldIf_contributed (contributed : lastLabel group slots overflow = some label) :
    Carries group label (foldIf slots maxChars text overflow) ∧
      ((∀ rendering ∈ foldRenderings slots text overflow, rendering.Lossless maxChars) →
        lastIn group (confirmedOf (foldIf slots maxChars text overflow)) = some label) := by
  unfold foldIf foldRenderings at *
  split_ifs at uncut ⊢ with nothing
  · rw [nothing] at contributed
    cases contributed
  · obtain ⟨carries,whole⟩ := carries_contributed listed names (uncut _ List.mem_cons_self) contributed
    exact ⟨carries,fun lossless => whole (lossless _ List.mem_cons_self)⟩

private theorem carries_foldIf (carries : Carries group label text)
    (nothing : lastLabel group slots overflow = none) :
    Carries group label (foldIf slots maxChars text overflow) ∧
      ((∀ rendering ∈ foldRenderings slots text overflow, rendering.Lossless maxChars) →
        lastIn group (confirmedOf (foldIf slots maxChars text overflow)) =
          lastIn group (confirmedOf text)) := by
  unfold foldIf foldRenderings at *
  split_ifs at uncut ⊢
  · exact ⟨carries,fun _ => rfl⟩
  · obtain ⟨next,whole⟩ := carries_fold listed carries names (uncut _ List.mem_cons_self) nothing
    exact ⟨next,fun lossless => whole (lossless _ List.mem_cons_self)⟩

end

section
variable {slots : Option SessionSlots} {maxChars : Option Int}

/-- The label folded last is the one that is held, if any is, and it is held unless a cap
or the limit takes something away. -/
theorem folded_last {group : List Text} (listed : group ∈ exclusiveLabelGroups) {existing label : Text}
    {overflow extra : List Message} (names : UnbrokenNames (overflow ++ extra))
    (uncut : ∀ rendering ∈ runRenderings slots maxChars existing overflow extra,
      Uncut rendering.summary maxChars)
    (last : lastLabel group slots (overflow ++ extra) = some label) :
    (∀ other ∈ confirmedOf (finalizeSummary
        (some (foldIf slots maxChars (foldIf slots maxChars existing overflow) extra)) slots maxChars),
      other ∈ group → other = label) ∧
    ((∀ rendering ∈ runRenderings slots maxChars existing overflow extra, rendering.Lossless maxChars) →
      label ∈ confirmedOf (finalizeSummary
        (some (foldIf slots maxChars (foldIf slots maxChars existing overflow) extra))
        slots maxChars)) := by
  have early : UnbrokenNames overflow := fun message member =>
    names message (List.mem_append_left _ member)
  have late : UnbrokenNames extra := fun message member =>
    names message (List.mem_append_right _ member)
  simp only [runRenderings,List.forall_mem_append,List.forall_mem_singleton] at uncut ⊢
  obtain ⟨⟨one,two⟩,three⟩ := uncut
  rw [lastLabel_append] at last
  obtain ⟨carries,whole⟩ : Carries group label
        (foldIf slots maxChars (foldIf slots maxChars existing overflow) extra) ∧
      ((∀ rendering ∈ foldRenderings slots existing overflow, rendering.Lossless maxChars) ∧
        (∀ rendering ∈ foldRenderings slots (foldIf slots maxChars existing overflow) extra,
          rendering.Lossless maxChars) →
        lastIn group (confirmedOf
          (foldIf slots maxChars (foldIf slots maxChars existing overflow) extra)) = some label) := by
    cases contributed : lastLabel group slots extra with
    | some other =>
      rw [contributed,Option.some_or] at last
      obtain rfl := Option.some.inj last
      obtain ⟨carries,whole⟩ := carries_foldIf_contributed listed late two contributed
      exact ⟨carries,fun lossless => whole lossless.2⟩
    | none =>
      rw [contributed,Option.none_or] at last
      obtain ⟨before,held⟩ := carries_foldIf_contributed listed early one last
      obtain ⟨carries,whole⟩ := carries_foldIf listed late two before contributed
      exact ⟨carries,fun lossless => (whole lossless.2).trans (held lossless.1)⟩
  obtain ⟨only,final⟩ := carries_final listed carries three
  refine ⟨only,fun lossless => ?_⟩
  exact (lastIn_mem ((final lossless.2).trans (whole lossless.1))).1

end

/-! The whole compression, with the rule-based summarizer. -/

section
variable {Score : Type*} [LinearOrder Score] [Zero Score] (services : Services Score)
  (options : Options Score)

def compressByRules (messages : List Message) : CompressResult :=
  compressByImportance services options (ruleSummarize options) messages

/-- The renderings of a compression: none when it takes an early exit. -/
def renderings (messages : List Message) : List Rendering :=
  match planCompression services options messages with
  | .inl _ => []
  | .inr plan =>
    runRenderings options.slots options.maxSummaryChars options.existingSummary plan.factOverflow
      (splitKeptByBudget services plan.kept options.tokenBudget
        (foldIf options.slots options.maxSummaryChars options.existingSummary plan.factOverflow)
        options.alwaysKeepRecent).2

/-- The label contributed by the last message that left, in the order of the input. -/
def lastWritten (group : List Text) (messages : List Message) : Option Text :=
  lastLabel group options.slots (departed (compressByRules services options messages) messages)

/-- The label contributed by the last message that was graded to stay and left for the
budget. -/
def lastForBudget (group : List Text) (messages : List Message) : Option Text :=
  lastLabel group options.slots (departed (compressByRules services options messages)
    (messages.filter (keptByGrading services options messages)))

/-- A label of the group that is held is the one written last, and it is held unless a
list cap or the character limit takes something away. -/
def LaterWriteWins (group : List Text) (messages : List Message) : Prop :=
  ∀ label, lastWritten services options group messages = some label →
    (∀ other ∈ confirmedOf (compressByRules services options messages).summary,
        other ∈ group → other = label) ∧
      ((∀ rendering ∈ renderings services options messages,
          rendering.Lossless options.maxSummaryChars) →
        label ∈ confirmedOf (compressByRules services options messages).summary)

/-- What leaves for the budget contributes nothing to the group, or ends with the label
that is also written last. -/
def InOrder (group : List Text) (messages : List Message) : Prop :=
  lastForBudget services options group messages = none ∨
    lastForBudget services options group messages = lastWritten services options group messages

instance (group : List Text) (messages : List Message) :
    Decidable (InOrder services options group messages) :=
  inferInstanceAs (Decidable (_ ∨ _))

/-- The messages that left, the order in which they were folded, and the outcome of the
folds. -/
structure Folded (group : List Text) (messages : List Message) (scored budget : List Message) :
    Prop where
  forBudget : lastForBudget services options group messages = lastLabel group options.slots budget
  written : lastLabel group options.slots budget = none →
    lastWritten services options group messages = lastLabel group options.slots scored
  silent : lastWritten services options group messages = none →
    lastLabel group options.slots budget = none
  outcome : ∀ label, lastLabel group options.slots (scored ++ budget) = some label →
    (∀ other ∈ confirmedOf (compressByRules services options messages).summary,
        other ∈ group → other = label) ∧
      ((∀ rendering ∈ renderings services options messages,
          rendering.Lossless options.maxSummaryChars) →
        label ∈ confirmedOf (compressByRules services options messages).summary)

private theorem later_write_of_folded {group : List Text} {messages scored budget : List Message}
    (folded : Folded services options group messages scored budget) :
    (InOrder services options group messages → LaterWriteWins services options group messages) ∧
      ((∀ rendering ∈ renderings services options messages,
          rendering.Lossless options.maxSummaryChars) →
        LaterWriteWins services options group messages → InOrder services options group messages) := by
  have total : lastLabel group options.slots (scored ++ budget) =
      (lastLabel group options.slots budget).or (lastLabel group options.slots scored) :=
    lastLabel_append group scored budget
  constructor
  · intro order label written
    refine folded.outcome label ?_
    rw [total]
    rcases order with none' | same
    · rw [folded.forBudget] at none'
      rw [none',Option.none_or,← folded.written none',written]
    · rw [folded.forBudget,written] at same
      rw [same,Option.some_or]
  · intro lossless wins
    rw [InOrder,folded.forBudget]
    cases late : lastLabel group options.slots budget with
    | none => exact Or.inl rfl
    | some other =>
      refine Or.inr ?_
      have held := (folded.outcome other (by rw [total,late,Option.some_or])).2 lossless
      cases written : lastWritten services options group messages with
      | none =>
        rw [folded.silent written] at late
        cases late
      | some label => rw [(wins label written).1 other held (lastIn_mem late).2]

private theorem folded_early {messages : List Message} {result : CompressResult}
    (early : planCompression services options messages = .inl result) (group : List Text) :
    Folded services options group messages [] [] := by
  have parts : result.summarized ++ result.discarded = [] := by
    unfold planCompression at early
    dsimp only at early
    split_ifs at early <;> obtain rfl := Sum.inl.inj early <;> rfl
  have same : compressByRules services options messages = result := by
    simp only [compressByRules,compressByImportance,early]
  have nothing (part : List Message) : departed (compressByRules services options messages) part = [] := by
    rw [departed,same,parts]
    simp
  refine ⟨?_,fun _ => ?_,fun _ => rfl,fun label last => by cases last⟩
  · rw [lastForBudget,nothing]
  · rw [lastWritten,nothing]

def firstText (messages : List Message) : Text :=
  foldIf options.slots options.maxSummaryChars options.existingSummary
    (planOver services options messages).factOverflow

private theorem compress_over {messages : List Message}
    (exceeds : planCompression services options messages = .inr (planOver services options messages)) :
    compressByRules services options messages =
      finalizeCompression services options (planOver services options messages)
        (firstText services options messages) := by
  simp only [compressByRules,compressByImportance,exceeds]
  rfl

section
variable {messages : List Message} (arrived : Arrived messages)
  (exceeds : planCompression services options messages = .inr (planOver services options messages))
  {first second : Message → Bool}
  (run : Stages services options messages (firstText services options messages) first second)
include arrived exceeds run

private theorem departed_over {part : List Message} (inside : part ⊆ messages) :
    departed (compressByRules services options messages) part =
      (part.filter (fun message => !second message)).map (leftAs services options messages) := by
  rw [compress_over services options exceeds]
  exact departed_eq arrived.ids (leftAs_id services options)
    (departed_perm services options arrived run) inside

private theorem folded_departed :
    (planOver services options messages).factOverflow ++
        keptBy messages (fun message => first message && !second message) ⊆
      departed (compressByRules services options messages) messages := by
  rw [folded_order services options arrived run,
    departed_over services options arrived exceeds run (fun _ => id),← List.map_append]
  refine List.map_subset _ (List.append_subset.mpr ⟨fun message member => ?_,fun message member => ?_⟩)
  · obtain ⟨here,gone⟩ := List.mem_filter.mp member
    refine List.mem_filter.mpr ⟨here,?_⟩
    cases stays : second message with
    | true => simp [run.first_le message (run.second_le message stays)] at gone
    | false => rfl
  · obtain ⟨here,gone⟩ := List.mem_filter.mp member
    exact List.mem_filter.mpr ⟨here,(Bool.and_eq_true_iff.mp gone).2⟩

private theorem folded_over
    (names : UnbrokenNames (departed (compressByRules services options messages) messages))
    (uncut : ∀ rendering ∈ renderings services options messages,
      Uncut rendering.summary options.maxSummaryChars)
    {group : List Text} (listed : group ∈ exclusiveLabelGroups) :
    Folded services options group messages
      ((messages.filter (fun message => !keptByGrading services options messages message)).map
        (leftAs services options messages))
      ((messages.filter (fun message =>
        keptByGrading services options messages message && !second message)).map
          (leftAs services options messages)) := by
  have extra : (splitKeptByBudget services (planOver services options messages).kept
      options.tokenBudget (firstText services options messages) options.alwaysKeepRecent).2 =
        keptBy messages (fun message => first message && !second message) := by
    have kept : (planOver services options messages).kept = keptBy messages first := by
      simp only [planOver,run.plan]
    rw [kept,run.final]
  have all := departed_over services options arrived exceeds run (fun _ => id)
  have scored : (messages.filter (fun message => !second message)).filter
        (fun message => !keptByGrading services options messages message) =
      messages.filter (fun message => !keptByGrading services options messages message) := by
    rw [List.filter_filter]
    refine List.filter_congr (fun message _ => ?_)
    cases stays : second message with
    | true => simp [run.first_le message (run.second_le message stays)]
    | false => simp
  constructor
  · rw [lastForBudget,departed_over services options arrived exceeds run (List.filter_subset_self _),
      List.filter_comm,List.filter_filter]
  · intro nothing
    rw [lastWritten,all,← scored]
    exact lastLabel_filter (by rwa [List.filter_filter])
  · intro nothing
    rw [lastWritten,all] at nothing
    refine lastLabel_none_of_subset (List.map_subset _ (fun message member => ?_)) nothing
    obtain ⟨here,gone⟩ := List.mem_filter.mp member
    exact List.mem_filter.mpr ⟨here,(Bool.and_eq_true_iff.mp gone).2⟩
  · intro label last
    rw [← folded_order services options arrived run,← extra] at last
    have named : UnbrokenNames ((planOver services options messages).factOverflow ++
        (splitKeptByBudget services (planOver services options messages).kept options.tokenBudget
          (firstText services options messages) options.alwaysKeepRecent).2) := by
      rw [extra]
      exact fun message member =>
        names message (folded_departed services options arrived exceeds run member)
    have steps : renderings services options messages =
        runRenderings options.slots options.maxSummaryChars options.existingSummary
          (planOver services options messages).factOverflow
          (splitKeptByBudget services (planOver services options messages).kept options.tokenBudget
            (firstText services options messages) options.alwaysKeepRecent).2 := by
      simp only [renderings,exceeds]
      rfl
    rw [steps] at uncut ⊢
    rw [compress_over services options exceeds]
    exact folded_last listed named uncut last

end

/-- When no course name that leaves holds a line break and no rendering is cut, the later
write wins if the labels are in order, and, where neither a cap nor the limit takes
anything away, only then. -/
theorem later_write_wins (messages : List Message) (arrived : Arrived messages)
    (names : UnbrokenNames (departed (compressByRules services options messages) messages))
    (uncut : ∀ rendering ∈ renderings services options messages,
      Uncut rendering.summary options.maxSummaryChars)
    {group : List Text} (listed : group ∈ exclusiveLabelGroups) :
    (InOrder services options group messages → LaterWriteWins services options group messages) ∧
      ((∀ rendering ∈ renderings services options messages,
          rendering.Lossless options.maxSummaryChars) →
        LaterWriteWins services options group messages → InOrder services options group messages) := by
  cases planned : planCompression services options messages with
  | inl result => exact later_write_of_folded services options (folded_early services options planned group)
  | inr plan =>
    have exceeds : plan = planOver services options messages := by
      unfold planCompression at planned
      dsimp only at planned
      split_ifs at planned
      exact (Sum.inr.inj planned).symm
    rw [exceeds] at planned
    obtain ⟨first,second,run⟩ := stages services options arrived (firstText services options messages)
    exact later_write_of_folded services options
      (folded_over services options arrived planned run names uncut listed)

end

def tightOptions : Options Int := ⟨8,none,1,3,6,4,[],none⟩

/-- An older turn that scores high and a newer one that scores low, both of which leave. -/
def refundWindow : List Message :=
  [spoken .human 0 "退款",spoken .ai 1 "退款审核",spoken .human 2 "进度",spoken .ai 3 "已退款",
    spoken .human 4 "谢谢"]

/-- The two turns in the other order of scores: the older one is discarded first. -/
theorem later_write_wins_in_score_order :
    LaterWriteWins (tableServices [0,0,9,9,0]) tightOptions [refundDone,refundReviewing]
      refundWindow :=
  (later_write_wins (tableServices [0,0,9,9,0]) tightOptions refundWindow
    ⟨by decide,by decide,by decide⟩ (by decide +kernel)
    (fun _ _ _ member => (nomatch member)) (by decide)).1 (by decide +kernel)

/-- The newer conclusion is discarded first and the older one is folded on top of it. -/
theorem older_write_wins :
    lastWritten (tableServices [9,9,0,0,0]) tightOptions [refundDone,refundReviewing] refundWindow =
        some refundDone ∧
      refundReviewing ∈
        confirmedOf (compressByRules (tableServices [9,9,0,0,0]) tightOptions refundWindow).summary ∧
      (∀ rendering ∈ renderings (tableServices [9,9,0,0,0]) tightOptions refundWindow,
        rendering.Lossless none) ∧
      ¬LaterWriteWins (tableServices [9,9,0,0,0]) tightOptions [refundDone,refundReviewing]
        refundWindow := by
  have written : lastWritten (tableServices [9,9,0,0,0]) tightOptions [refundDone,refundReviewing]
      refundWindow = some refundDone := by
    decide +kernel
  have held : refundReviewing ∈
      confirmedOf (compressByRules (tableServices [9,9,0,0,0]) tightOptions refundWindow).summary := by
    decide +kernel
  refine ⟨written,held,by decide +kernel,fun wins => ?_⟩
  have same := (wins refundDone written).1 refundReviewing held (by decide)
  exact absurd same (by decide)

end CustomerService.SummaryFacts
