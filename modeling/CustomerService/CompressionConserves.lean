import CustomerService.Compression
import Mathlib.Data.List.Nodup
import Mathlib.Data.List.Pairwise
import Mathlib.Data.List.Perm.Basic

/-! Compression conserves messages: what is kept and what leaves the window together are
the input, turn by turn. -/
namespace CustomerService.SummaryFacts

open Text

/-! Objects and their identities. -/

/-- Messages as they arrive: distinct ids, no compacted copies, and one message for
each object. -/
structure Arrived (messages : List Message) : Prop where
  ids : (messages.map Message.id).Nodup
  originals : ∀ message ∈ messages, message.copy = false
  objects : ∀ first ∈ messages, ∀ second ∈ messages, first.ref = second.ref → first = second

theorem Arrived.refs {messages : List Message} (arrived : Arrived messages) :
    (messages.map Message.ref).Nodup :=
  (List.Nodup.of_map _ arrived.ids).map_on arrived.objects

theorem nodup_identity {messages : List Message} (refs : (messages.map Message.ref).Nodup) :
    (messages.map Message.identity).Nodup := by
  refine List.Nodup.of_map Prod.fst ?_
  rwa [List.map_map]

/-- One message for each object, which may be listed more than once. -/
structure Objects (messages : List Message) : Prop where
  originals : ∀ message ∈ messages, message.copy = false
  objects : ∀ first ∈ messages, ∀ second ∈ messages, first.ref = second.ref → first = second

theorem Arrived.each {messages : List Message} (arrived : Arrived messages) : Objects messages :=
  ⟨arrived.originals,arrived.objects⟩

/-- What `id` tells apart. -/
def Apart (messages : List Message) : Prop :=
  ∀ first ∈ messages, ∀ second ∈ messages, first.identity = second.identity → first = second

private theorem apart_of_nodup {messages : List Message} (distinct : (messages.map Message.identity).Nodup) :
    Apart messages := fun _ here _ there same => List.inj_on_of_nodup_map distinct here there same

theorem Objects.apart {messages : List Message} (each : Objects messages) : Apart messages :=
  fun first here second there same => each.objects first here second there (congrArg Prod.fst same)

private theorem identity_mem_iff {messages part : List Message} (apart : Apart messages)
    (inside : part ⊆ messages) {message : Message} (member : message ∈ messages) :
    message.identity ∈ part.map Message.identity ↔ message ∈ part := by
  refine ⟨fun listed => ?_,List.mem_map_of_mem⟩
  obtain ⟨other,here,same⟩ := List.mem_map.mp listed
  rwa [← apart other (inside here) message member same]

theorem map_snd_enumerate (messages : List Message) :
    (enumerate messages).map Prod.snd = messages := by
  simp [enumerate,List.map_map,Function.comp_def]

theorem turns_enumerate (messages : List Message) :
    (Turns.turns placedKind (enumerate messages)).map (List.map Prod.snd) =
      Turns.turns Message.kind messages := by
  have same (item : Placed) : item.2.kind = placedKind item := rfl
  rw [← Turns.turns_map same,map_snd_enumerate]

theorem systems_enumerate (messages : List Message) :
    (Turns.partitionTurns placedKind (enumerate messages)).1.map Prod.snd =
      messages.filter (fun message => message.kind = .system) := by
  rw [Turns.partition_systems]
  conv_rhs => rw [← map_snd_enumerate messages,List.filter_map]
  rfl

/-! The split by the budget. -/

section
variable {Score : Type*} (services : Services Score)

private theorem selectTurns_append (restBudget minKeep : Int) (selected : List (List Placed)) (total : Int)
    (remaining : List (List Placed)) :
    (selectTurns services restBudget minKeep selected total remaining).1 ++
        (selectTurns services restBudget minKeep selected total remaining).2.reverse =
      selected ++ remaining := by
  induction remaining generalizing selected total with
  | nil => simp [selectTurns]
  | cons turn earlier ih =>
    unfold selectTurns
    dsimp only
    split_ifs
    · simp
    · rw [ih]
      simp

theorem selectTurns_head {restBudget minKeep : Int} {turns : List (List Placed)}
    {chosen : List (List Placed) × List (List Placed)}
    (run : selectTurns services restBudget minKeep [] 0 turns.reverse = chosen) :
    turns = chosen.2 ++ chosen.1.reverse := by
  have whole := selectTurns_append services restBudget minKeep [] 0 turns.reverse
  rw [run,List.nil_append] at whole
  have back := congrArg List.reverse whole
  rw [List.reverse_append,List.reverse_reverse,List.reverse_reverse] at back
  exact back.symm

/-- What a split does: a set of whole turns leaves, in order, and the rest stays. -/
structure SplitsBy (kept : List Message) (split : List Message × List Message)
    (keep : Message → Bool) : Prop where
  stays : split.1 = kept.filter keep
  leaves : split.2 = kept.filter (fun message => !keep message)
  systems : ∀ message ∈ kept, message.kind = .system → keep message = true
  whole : ∀ turn ∈ Turns.turns Message.kind kept, Turns.Whole keep turn
  oldest : kept.filter (fun message => message.kind ≠ .system) =
    split.2 ++ split.1.filter (fun message => message.kind ≠ .system)

private theorem splitsBy_of_turns {kept : List Message} (distinct : kept.Nodup)
    {head selected : List (List Message)} (parts : Turns.turns Message.kind kept = head ++ selected)
    {keepIds : List Identity} (ids : ∀ message ∈ kept,
      message.identity ∈ keepIds ↔ message ∈ selected.flatten ∨ message.kind = .system) :
    SplitsBy kept (kept.filter (fun message => message.identity ∈ keepIds),head.flatten)
      (fun message => message.identity ∈ keepIds) := by
  have flat : head.flatten ++ selected.flatten =
      kept.filter (fun message => message.kind ≠ .system) := by
    rw [← List.flatten_append,← parts,Turns.flatten_turns]
  have apart : ∀ message ∈ head.flatten, message ∉ selected.flatten := by
    have once : (head.flatten ++ selected.flatten).Nodup := flat ▸ distinct.filter _
    exact fun message early late => List.disjoint_of_nodup_append once early late
  have inside {message : Message} (member : message ∈ head.flatten ++ selected.flatten) :
      message ∈ kept ∧ message.kind ≠ .system := by
    rw [flat] at member
    simpa using member
  have gone : ∀ message ∈ head.flatten, message.identity ∉ keepIds := by
    intro message early listed
    obtain ⟨member,person⟩ := inside (List.mem_append_left _ early)
    rcases (ids message member).mp listed with late | system
    · exact apart message early late
    · exact person system
  have stays : ∀ message ∈ selected.flatten, message.identity ∈ keepIds := fun message late =>
    (ids message (inside (List.mem_append_right _ late)).1).mpr (Or.inl late)
  refine ⟨rfl,?_,fun message member system => ?_,fun turn listed => ?_,?_⟩
  · have persons : kept.filter (fun message => !decide (message.identity ∈ keepIds)) =
        (head.flatten ++ selected.flatten).filter
          (fun message => !decide (message.identity ∈ keepIds)) := by
      rw [flat,List.filter_filter]
      refine List.filter_congr (fun message member => ?_)
      by_cases system : message.kind = .system
      · simp [(ids message member).mpr (Or.inr system),system]
      · simp [system]
    have early : head.flatten.filter (fun message => !decide (message.identity ∈ keepIds)) =
        head.flatten := List.filter_eq_self.mpr (by simpa using gone)
    have late : selected.flatten.filter (fun message => !decide (message.identity ∈ keepIds)) = [] :=
      List.filter_eq_nil_iff.mpr (by simpa using stays)
    rw [persons,List.filter_append,early,late,List.append_nil]
  · exact decide_eq_true ((ids message member).mpr (Or.inr system))
  · rw [parts] at listed
    rcases List.mem_append.mp listed with early | late
    · exact Or.inr (fun message member =>
        decide_eq_false (gone message (List.mem_flatten.mpr ⟨turn,early,member⟩)))
    · exact Or.inl (fun message member =>
        decide_eq_true (stays message (List.mem_flatten.mpr ⟨turn,late,member⟩)))
  · have early : head.flatten.filter (fun message => message.identity ∈ keepIds) = [] :=
      List.filter_eq_nil_iff.mpr (by simpa using gone)
    have late : selected.flatten.filter (fun message => message.identity ∈ keepIds) =
        selected.flatten := List.filter_eq_self.mpr (by simpa using stays)
    rw [List.filter_comm,← flat,List.filter_append,early,late,List.nil_append]

theorem split_chosen {kept : List Message} (distinct : (kept.map Message.identity).Nodup)
    (some' : kept ≠ []) (tokenBudget : Int) (summary : Text) (alwaysKeepRecent : Int) :
    ∃ chosen keep, chosen = selectTurns services
        (max 1 (max 1 (tokenBudget - promptSummaryTokens services summary) -
          totalTokens services (kept.filter (fun message => message.kind = .system))))
        (min (max 1 alwaysKeepRecent) (max 1 ((kept.length : Int) -
          (kept.filter (fun message => message.kind = .system)).length))) [] 0
        (Turns.partitionTurns placedKind (enumerate kept)).2.reverse ∧
      Turns.turns Message.kind kept =
        chosen.2.map (List.map Prod.snd) ++ (chosen.1.map (List.map Prod.snd)).reverse ∧
      (splitKeptByBudget services kept tokenBudget summary alwaysKeepRecent).2 =
        (chosen.2.map (List.map Prod.snd)).flatten ∧
      SplitsBy kept (splitKeptByBudget services kept tokenBudget summary alwaysKeepRecent) keep := by
  simp only [splitKeptByBudget,if_neg some',systems_enumerate]
  generalize run : selectTurns services _ _ [] 0 _ = chosen
  have parts : Turns.turns Message.kind kept =
      chosen.2.map (List.map Prod.snd) ++ (chosen.1.map (List.map Prod.snd)).reverse := by
    rw [← turns_enumerate,Turns.turns,selectTurns_head services run,List.map_append,List.map_reverse]
  have flat : chosen.2.flatten.map Prod.snd = (chosen.2.map (List.map Prod.snd)).flatten :=
    List.map_flatten
  have late (message : Message) : message ∈ (chosen.1.map (List.map Prod.snd)).reverse.flatten ↔
      message ∈ chosen.1.flatten.map Prod.snd := by
    rw [List.map_flatten]
    simp
  rw [flat]
  refine ⟨chosen,_,rfl,parts,rfl,
    splitsBy_of_turns (List.Nodup.of_map _ distinct) parts (fun message member => ?_)⟩
  rw [identity_mem_iff (apart_of_nodup distinct) _ member,List.mem_append,late,List.mem_filter]
  · simp [member]
  · intro other listed
    rcases List.mem_append.mp listed with person | system
    · rw [← late] at person
      obtain ⟨turn,here,inside⟩ := List.mem_flatten.mp person
      exact (Turns.mem_of_mem_turn Message.kind
        (parts ▸ List.mem_append_right _ here) inside).1
    · exact List.mem_of_mem_filter system

theorem split_spec {kept : List Message} (distinct : (kept.map Message.identity).Nodup)
    (tokenBudget : Int) (summary : Text) (alwaysKeepRecent : Int) :
    ∃ keep, SplitsBy kept
      (splitKeptByBudget services kept tokenBudget summary alwaysKeepRecent) keep := by
  by_cases nothing : kept = []
  · subst nothing
    exact ⟨fun _ => true,rfl,rfl,fun _ member => (nomatch member),fun _ listed => (nomatch listed),rfl⟩
  · obtain ⟨_,keep,_,_,_,split⟩ := split_chosen services distinct nothing tokenBudget summary
      alwaysKeepRecent
    exact ⟨keep,split⟩

/-- Whole turns go and every system message stays. -/
structure Divides (messages : List Message) (keep : Message → Bool) : Prop where
  systems : ∀ message ∈ messages, message.kind = .system → keep message = true
  whole : ∀ turn ∈ Turns.turns Message.kind messages, Turns.Whole keep turn

def keptBy (messages : List Message) (keep : Message → Bool) : List Message :=
  (messages.filter keep).map compactRagMessage

theorem turns_compacted (messages : List Message) :
    Turns.turns Message.kind (messages.map compactRagMessage) =
      (Turns.turns Message.kind messages).map (List.map compactRagMessage) :=
  Turns.turns_map compact_kind messages

theorem refs_keptBy {messages : List Message} (refs : (messages.map Message.ref).Nodup)
    (keep : Message → Bool) : ((keptBy messages keep).map Message.ref).Nodup := by
  have same : (keptBy messages keep).map Message.ref = (messages.filter keep).map Message.ref := by
    simp [keptBy,List.map_map,Function.comp_def]
  rw [same]
  exact refs.sublist (List.filter_sublist.map _)

private theorem map_cancel {Item Value : Type*} {f : Item → Value} {first second : List Item}
    (injective : ∀ one ∈ first, ∀ two ∈ second, f one = f two → one = two)
    (same : first.map f = second.map f) : first = second := by
  induction first generalizing second with
  | nil => exact (List.map_eq_nil_iff.mp same.symm).symm
  | cons item rest ih =>
    cases second with
    | nil => cases same
    | cons other more =>
      obtain ⟨head,tail⟩ := List.cons_eq_cons.mp same
      rw [injective item List.mem_cons_self other List.mem_cons_self head,
        ih (fun one here two there => injective one (List.mem_cons_of_mem _ here) two
          (List.mem_cons_of_mem _ there)) tail]

private theorem compact_cancel {messages first second : List Message}
    (refs : (messages.map Message.ref).Nodup) (one : first ⊆ messages) (two : second ⊆ messages)
    (same : first.map compactRagMessage = second.map compactRagMessage) : first = second := by
  refine map_cancel (fun left here right there equal => ?_) same
  have names := congrArg Message.ref equal
  rw [compact_ref,compact_ref] at names
  exact List.inj_on_of_nodup_map refs (one here) (two there) names

theorem split_divides {messages : List Message} {keep : Message → Bool}
    (refs : (messages.map Message.ref).Nodup) (divides : Divides messages keep)
    (tokenBudget : Int) (summary : Text) (alwaysKeepRecent : Int) :
    ∃ keep', Divides messages keep' ∧ (∀ message, keep' message = true → keep message = true) ∧
      splitKeptByBudget services (keptBy messages keep) tokenBudget summary alwaysKeepRecent =
        (keptBy messages keep',
          keptBy messages (fun message => keep message && !keep' message)) ∧
      messages.filter (fun message => keep message && decide (message.kind ≠ .system)) =
        messages.filter (fun message => keep message && !keep' message) ++
          messages.filter (fun message => keep' message && decide (message.kind ≠ .system)) := by
  obtain ⟨chosen,split⟩ := split_spec services (nodup_identity (refs_keptBy refs keep))
    tokenBudget summary alwaysKeepRecent
  let keep' : Message → Bool := fun message => keep message && chosen (compactRagMessage message)
  have narrowed (choice : Message → Bool) :
      (keptBy messages keep).filter choice =
        keptBy messages (fun message => keep message && choice (compactRagMessage message)) := by
    rw [keptBy,List.filter_map,List.filter_filter,keptBy]
    congr 1
    refine List.filter_congr (fun message _ => ?_)
    simp [Bool.and_comm]
  have stay : (splitKeptByBudget services (keptBy messages keep) tokenBudget summary
      alwaysKeepRecent).1 = keptBy messages keep' := split.stays.trans (narrowed chosen)
  have leave : (splitKeptByBudget services (keptBy messages keep) tokenBudget summary
      alwaysKeepRecent).2 = keptBy messages (fun message => keep message && !keep' message) := by
    rw [split.leaves,narrowed]
    congr 1
    funext message
    cases here : keep message <;> simp [keep',here]
  have persons (choice : Message → Bool) :
      (keptBy messages choice).filter (fun message => message.kind ≠ .system) =
        keptBy messages (fun message => choice message && decide (message.kind ≠ .system)) := by
    rw [keptBy,List.filter_map,List.filter_filter,keptBy]
    congr 1
    refine List.filter_congr (fun message _ => ?_)
    simp [Bool.and_comm]
  refine ⟨keep',⟨fun message member system => ?_,fun turn listed => ?_⟩,fun message both => ?_,
    Prod.ext stay leave,?_⟩
  · have stays := divides.systems message member system
    have inside : compactRagMessage message ∈ keptBy messages keep :=
      List.mem_map_of_mem (List.mem_filter.mpr ⟨member,stays⟩)
    simp [keep',stays,split.systems _ inside ((compact_kind message).trans system)]
  · rcases divides.whole turn listed with all | none'
    · obtain ⟨block,here,within⟩ := Turns.turn_within_block divides.systems listed all
      have seen : block.map compactRagMessage ∈ Turns.turns Message.kind (keptBy messages keep) := by
        rw [keptBy,turns_compacted]
        exact List.mem_map_of_mem here
      refine (split.whole _ seen).imp (fun stay message member => ?_) (fun go message member => ?_)
      · simp [keep',all message member,stay _ (List.mem_map_of_mem (within member))]
      · simp [keep',go _ (List.mem_map_of_mem (within member))]
    · exact Or.inr (fun message member => by simp [keep',none' message member])
  · simp only [keep',Bool.and_eq_true] at both
    exact both.1
  · have oldest := split.oldest
    rw [stay,leave,persons,persons] at oldest
    refine compact_cancel refs (List.filter_subset_self _) ?_ (oldest.trans List.map_append.symm)
    exact List.append_subset.mpr ⟨List.filter_subset_self _,List.filter_subset_self _⟩

end

/-! Noted compactions. -/

private theorem noteCompacted_concat (noted : Dict Identity Message) (messages : List Message)
    (orig : Message) : noteCompacted noted (messages ++ [orig]) =
      if (compactRagMessage orig).identity = orig.identity then noteCompacted noted messages
      else (noteCompacted noted messages).set orig.identity (compactRagMessage orig) := by
  simp [noteCompacted,List.foldl_append]

private theorem noteCompacted_append (noted : Dict Identity Message) (first second : List Message) :
    noteCompacted noted (first ++ second) = noteCompacted (noteCompacted noted first) second :=
  List.foldl_append

theorem noted_changed {messages : List Message} {key : Identity} {new : Message}
    (found : (noteCompacted ∅ messages).get? key = some new) :
    ∃ orig ∈ messages, orig.identity = key ∧ new = compactRagMessage orig ∧
      new.identity ≠ orig.identity := by
  induction messages using List.reverseRecOn with
  | nil => cases found
  | append_singleton messages last ih =>
    have earlier (before : (noteCompacted ∅ messages).get? key = some new) :
        ∃ orig ∈ messages ++ [last], orig.identity = key ∧ new = compactRagMessage orig ∧
          new.identity ≠ orig.identity := by
      obtain ⟨orig,member,rest⟩ := ih before
      exact ⟨orig,List.mem_append_left _ member,rest⟩
    rw [noteCompacted_concat] at found
    split_ifs at found with unchanged
    · exact earlier found
    · rw [Dict.get?_set] at found
      split_ifs at found with same
      · obtain rfl := Option.some.inj found
        exact ⟨last,by simp,by simpa using same.symm,rfl,unchanged⟩
      · exact earlier found

theorem noted_sound {messages : List Message} {key : Identity} {new : Message}
    (found : (noteCompacted ∅ messages).get? key = some new) :
    ∃ orig ∈ messages, orig.identity = key ∧ new = compactRagMessage orig := by
  obtain ⟨orig,member,same,compacted,_⟩ := noted_changed found
  exact ⟨orig,member,same,compacted⟩

theorem noted_complete {messages : List Message} {orig : Message} (member : orig ∈ messages)
    (changed : (compactRagMessage orig).identity ≠ orig.identity) :
    (noteCompacted ∅ messages).get? orig.identity ≠ none := by
  induction messages using List.reverseRecOn with
  | nil => cases member
  | append_singleton messages last ih =>
    rw [noteCompacted_concat]
    rcases List.mem_append.mp member with early | late
    · split_ifs
      · exact ih early
      · rw [Dict.get?_set]
        split_ifs
        · simp
        · exact ih early
    · obtain rfl := List.mem_singleton.mp late
      rw [if_neg changed,Dict.get?_set]
      simp

private theorem getD_noteCompacted {messages part : List Message} (each : Objects messages)
    (inside : part ⊆ messages) {message : Message} (member : message ∈ messages)
    (noted : message ∈ part ∨ compactRagMessage message = message) :
    (noteCompacted ∅ part).getD message.identity message = compactRagMessage message := by
  unfold Dict.getD
  cases found : (noteCompacted ∅ part).get? message.identity with
  | some new =>
    obtain ⟨orig,here,same,rfl⟩ := noted_sound found
    rw [each.apart orig (inside here) message member same]
    rfl
  | none =>
    rcases noted with here | unchanged
    · by_contra other
      refine noted_complete here (fun same => other ?_) found
      exact ((compact_identity (each.originals message member)).mp same).symm
    · exact unchanged.symm

/-! Grades. -/

inductive Grade
  | keep
  | discard
  | summarize
deriving DecidableEq

section
variable {Score : Type*} [LinearOrder Score] [Zero Score] (services : Services Score)
  (options : Options Score)

/-- What becomes of a turn before the budget is looked at. -/
def gradeOf (recentStart : Int) (scores : List Score) (turn : List Placed) : Grade :=
  if isRecent recentStart turn then .keep
  else if turnScore scores turn < options.discardScore then .discard
  else if turnScore scores turn < options.summarizeScore then .summarize
  else .keep

def grade (messages : List Message) (turn : List Placed) : Grade :=
  gradeOf options (recentStart options messages) (messageScores services messages) turn

private theorem gradeTurn_eq (messages : List Message) (state : Grading) (turn : List Placed) :
    gradeTurn options (recentStart options messages) (messageScores services messages) state turn =
      match grade services options messages turn with
      | .keep =>
        { state with
          compactByOrig := noteCompacted state.compactByOrig (turn.map Prod.snd)
          keepOrig := state.keepOrig ++ (turn.map Prod.snd).map Message.identity }
      | .discard =>
        { state with
          discarded := state.discarded ++ turn.map Prod.snd
          factOverflow := state.factOverflow ++ turn.map Prod.snd }
      | .summarize =>
        { state with
          compactByOrig := noteCompacted state.compactByOrig (turn.map Prod.snd)
          summarized := state.summarized ++ (turn.map Prod.snd).map compactRagMessage
          factOverflow := state.factOverflow ++ (turn.map Prod.snd).map compactRagMessage } := by
  simp only [gradeTurn,grade,gradeOf]
  split_ifs <;> rfl

def graded (messages : List Message) (which : Grade) (turns : List (List Placed)) : List Message :=
  (turns.filter (fun turn => grade services options messages turn = which)).flatten.map Prod.snd

def leaving (messages : List Message) (turn : List Placed) : List Message :=
  match grade services options messages turn with
  | .keep => []
  | .discard => turn.map Prod.snd
  | .summarize => (turn.map Prod.snd).map compactRagMessage

private theorem graded_concat (messages : List Message) (which : Grade) (turns : List (List Placed))
    (turn : List Placed) : graded services options messages which (turns ++ [turn]) =
      graded services options messages which turns ++
        if grade services options messages turn = which then turn.map Prod.snd else [] := by
  unfold graded
  rw [List.filter_append,List.flatten_append,List.map_append]
  by_cases same : grade services options messages turn = which <;> simp [same]

private theorem grading_eq (messages : List Message) (noted : Dict Identity Message)
    (keepOrig : List Identity) (turns : List (List Placed)) :
    turns.foldl (gradeTurn options (recentStart options messages) (messageScores services messages))
        ⟨keepOrig,noted,[],[],[]⟩ =
      { keepOrig := keepOrig ++ (graded services options messages .keep turns).map Message.identity
        compactByOrig := noteCompacted noted ((turns.filter
          (fun turn => grade services options messages turn ≠ .discard)).flatten.map Prod.snd)
        summarized := (graded services options messages .summarize turns).map compactRagMessage
        discarded := graded services options messages .discard turns
        factOverflow := turns.flatMap (leaving services options messages) } := by
  induction turns using List.reverseRecOn with
  | nil => simp [graded,noteCompacted]
  | append_singleton turns turn ih =>
    rw [List.foldl_append,ih,List.foldl_cons,List.foldl_nil,gradeTurn_eq]
    cases which : grade services options messages turn with
    | keep => simp [graded_concat,which,leaving,noteCompacted_append]
    | discard => simp [graded_concat,which,leaving]
    | summarize => simp [graded_concat,which,leaving,noteCompacted_append]

private theorem filter_flatten {Item : Type*} {turns : List (List Item)} {keep : Item → Bool}
    {keepTurn : List Item → Bool} (same : ∀ turn ∈ turns, ∀ item ∈ turn, keep item = keepTurn turn) :
    turns.flatten.filter keep = (turns.filter keepTurn).flatten := by
  induction turns with
  | nil => rfl
  | cons turn rest ih =>
    have tail := ih (fun other listed => same other (List.mem_cons_of_mem _ listed))
    have here := same turn List.mem_cons_self
    rw [List.flatten_cons,List.filter_append,tail]
    cases decided : keepTurn turn with
    | true =>
      rw [List.filter_cons_of_pos decided,List.flatten_cons,
        List.filter_eq_self.mpr (fun item member => (here item member).trans decided)]
    | false =>
      rw [List.filter_cons_of_neg (by simp [decided]),List.filter_eq_nil_iff.mpr,List.nil_append]
      intro item member
      simp [here item member,decided]

def placedTurns (messages : List Message) : List (List Placed) :=
  Turns.turns placedKind (enumerate messages)

theorem flatten_placedTurns (messages : List Message) :
    (placedTurns messages).flatten.map Prod.snd =
      messages.filter (fun message => message.kind ≠ .system) := by
  rw [List.map_flatten,placedTurns,turns_enumerate,Turns.flatten_turns]

theorem turn_unique {messages : List Message} (distinct : messages.Nodup) {first second : List Placed}
    (one : first ∈ placedTurns messages) (two : second ∈ placedTurns messages) {message : Message}
    (here : message ∈ first.map Prod.snd) (there : message ∈ second.map Prod.snd) :
    first = second := by
  have places : ((enumerate messages).map Prod.snd).Nodup := by rwa [map_snd_enumerate]
  have flat : (placedTurns messages).flatten.Nodup := by
    rw [placedTurns,Turns.flatten_turns]
    exact (List.Nodup.of_map _ places).filter _
  obtain ⟨item,inside,rfl⟩ := List.mem_map.mp here
  obtain ⟨other,inside',same⟩ := List.mem_map.mp there
  have listed {turn : List Placed} (turn_listed : turn ∈ placedTurns messages) {item : Placed}
      (member : item ∈ turn) : item ∈ enumerate messages :=
    (Turns.mem_of_mem_turn placedKind turn_listed member).1
  obtain rfl := List.inj_on_of_nodup_map places (listed two inside') (listed one inside) same
  by_contra apart
  have symmetric : Std.Symm (@List.Disjoint Placed) := ⟨fun _ _ apart _ here there => apart there here⟩
  exact (List.nodup_flatten.mp flat).2.forall one two apart inside inside'

theorem mem_graded {messages : List Message} {which : Grade} {turns : List (List Placed)}
    {message : Message} : message ∈ graded services options messages which turns ↔
      ∃ turn ∈ turns, grade services options messages turn = which ∧ message ∈ turn.map Prod.snd := by
  rw [graded,List.map_flatten,List.mem_flatten]
  constructor
  · rintro ⟨part,listed,member⟩
    obtain ⟨turn,inside,rfl⟩ := List.mem_map.mp listed
    obtain ⟨here,same⟩ := List.mem_filter.mp inside
    exact ⟨turn,here,of_decide_eq_true same,member⟩
  · rintro ⟨turn,here,same,member⟩
    exact ⟨turn.map Prod.snd,
      List.mem_map_of_mem (List.mem_filter.mpr ⟨here,decide_eq_true same⟩),member⟩

theorem mem_of_mem_placedTurn {messages : List Message} {turn : List Placed}
    (listed : turn ∈ placedTurns messages) {message : Message} (member : message ∈ turn.map Prod.snd) :
    message ∈ messages ∧ message.kind ≠ .system := by
  obtain ⟨item,inside,rfl⟩ := List.mem_map.mp member
  obtain ⟨here,person⟩ := Turns.mem_of_mem_turn placedKind listed inside
  refine ⟨?_,person⟩
  rw [← map_snd_enumerate messages]
  exact List.mem_map_of_mem here

theorem grading_spec (messages : List Message) : grading services options messages =
    { keepOrig := (messages.filter (fun message => message.kind = .system) ++
        graded services options messages .keep (placedTurns messages)).map Message.identity
      compactByOrig := noteCompacted ∅ (((placedTurns messages).filter
        (fun turn => grade services options messages turn ≠ .discard)).flatten.map Prod.snd)
      summarized :=
        (graded services options messages .summarize (placedTurns messages)).map compactRagMessage
      discarded := graded services options messages .discard (placedTurns messages)
      factOverflow := (placedTurns messages).flatMap (leaving services options messages) } := by
  simp only [grading,systems_enumerate]
  rw [List.map_append]
  exact grading_eq services options messages _ _ _

def keptByGrading (messages : List Message) (message : Message) : Bool :=
  (grading services options messages).keepOrig.contains message.identity

theorem keptByGrading_iff {messages : List Message} (each : Objects messages) {message : Message}
    (member : message ∈ messages) :
    keptByGrading services options messages message = true ↔ message.kind = .system ∨
      message ∈ graded services options messages .keep (placedTurns messages) := by
  rw [keptByGrading,List.contains_iff_mem,grading_spec]
  rw [identity_mem_iff each.apart _ member,List.mem_append,List.mem_filter]
  · simp [member]
  · intro other listed
    rcases List.mem_append.mp listed with system | person
    · exact List.mem_of_mem_filter system
    · obtain ⟨turn,here,_,inside⟩ := (mem_graded services options).mp person
      exact (mem_of_mem_placedTurn here inside).1

theorem kept_after_grading {messages : List Message} (each : Objects messages) :
    keptAfterGrading services options messages =
    keptBy messages (keptByGrading services options messages) := by
  have same : messages.filter (fun message =>
      message.identity ∈ (grading services options messages).keepOrig) =
      messages.filter (keptByGrading services options messages) :=
    List.filter_congr (fun message _ => by
      rw [keptByGrading,Bool.eq_iff_iff,List.contains_iff_mem,decide_eq_true_iff])
  unfold keptAfterGrading keptBy
  dsimp only
  rw [same]
  refine List.map_congr_left (fun message listed => ?_)
  obtain ⟨member,stays⟩ := List.mem_filter.mp listed
  rw [grading_spec]
  refine getD_noteCompacted each ?_ member ?_
  · intro other inside
    rw [List.map_flatten,List.mem_flatten] at inside
    obtain ⟨part,here,within⟩ := inside
    obtain ⟨turn,chosen,rfl⟩ := List.mem_map.mp here
    exact (mem_of_mem_placedTurn (List.mem_of_mem_filter chosen) within).1
  · rcases (keptByGrading_iff services options each member).mp stays with system | person
    · exact Or.inr (compact_system system)
    · obtain ⟨turn,here,same,inside⟩ := (mem_graded services options).mp person
      refine Or.inl ?_
      rw [List.map_flatten,List.mem_flatten]
      refine ⟨_,List.mem_map_of_mem (List.mem_filter.mpr ⟨here,?_⟩),inside⟩
      simp [same]

section
variable {messages : List Message} (arrived : Arrived messages)
include arrived

theorem keptByGrading_turn {turn : List Placed} (listed : turn ∈ placedTurns messages)
    {message : Message} (member : message ∈ turn.map Prod.snd) :
    keptByGrading services options messages message =
      decide (grade services options messages turn = .keep) := by
  obtain ⟨inside,person⟩ := mem_of_mem_placedTurn listed member
  rw [Bool.eq_iff_iff,keptByGrading_iff services options arrived.each inside,decide_eq_true_iff,
    mem_graded]
  constructor
  · rintro (system | ⟨other,here,same,also⟩)
    · exact absurd system person
    · rwa [turn_unique (List.Nodup.of_map _ arrived.ids) listed here member also]
  · exact fun same => Or.inr ⟨turn,listed,same,member⟩

theorem divides_grading : Divides messages (keptByGrading services options messages) := by
  refine ⟨fun message member system => ?_,fun turn listed => ?_⟩
  · exact (keptByGrading_iff services options arrived.each member).mpr (Or.inl system)
  · rw [← turns_enumerate] at listed
    obtain ⟨placed,here,rfl⟩ := List.mem_map.mp listed
    have seen : ∀ message ∈ placed.map Prod.snd, keptByGrading services options messages message =
        decide (grade services options messages placed = .keep) :=
      fun message => keptByGrading_turn services options arrived here
    by_cases same : grade services options messages placed = .keep
    · exact Or.inl (fun message member => by simp [seen message member,same])
    · exact Or.inr (fun message member => by simp [seen message member,same])

theorem gone_grading :
    messages.filter (fun message => !keptByGrading services options messages message) =
      ((placedTurns messages).filter
        (fun turn => grade services options messages turn ≠ .keep)).flatten.map Prod.snd := by
  have persons : messages.filter (fun message => !keptByGrading services options messages message) =
      ((placedTurns messages).flatten.map Prod.snd).filter
        (fun message => !keptByGrading services options messages message) := by
    rw [flatten_placedTurns,List.filter_filter]
    refine List.filter_congr (fun message member => ?_)
    by_cases system : message.kind = .system
    · simp [system,(divides_grading services options arrived).systems message member system]
    · simp [system]
  rw [persons,List.filter_map,filter_flatten]
  intro turn listed item inside
  have seen := keptByGrading_turn services options arrived listed (List.mem_map_of_mem inside)
  simp only [Function.comp_apply,seen]
  by_cases same : grade services options messages turn = .keep <;> simp [same]

private theorem gone_grading_perm :
    (graded services options messages .summarize (placedTurns messages) ++
        graded services options messages .discard (placedTurns messages)).Perm
      (messages.filter (fun message => !keptByGrading services options messages message)) := by
  rw [gone_grading services options arrived,graded,graded,← List.map_append,← List.flatten_append]
  refine (List.Perm.flatten ?_).map Prod.snd
  have split := List.filter_append_perm
    (fun turn => decide (grade services options messages turn = .summarize))
    ((placedTurns messages).filter (fun turn => grade services options messages turn ≠ .keep))
  refine List.Perm.trans (List.Perm.of_eq ?_) split
  rw [List.filter_filter,List.filter_filter]
  congr 1
  · refine List.filter_congr (fun turn _ => ?_)
    cases grade services options messages turn <;> rfl
  · refine List.filter_congr (fun turn _ => ?_)
    cases grade services options messages turn <;> rfl

end

/-! The whole compression. -/

private theorem removed_perm (messages : List Message) {keep keep' : Message → Bool}
    (narrower : ∀ message, keep' message = true → keep message = true) :
    (messages.filter (fun message => !keep message) ++
        messages.filter (fun message => keep message && !keep' message)).Perm
      (messages.filter (fun message => !keep' message)) := by
  have split := List.filter_append_perm (fun message => !keep message)
    (messages.filter (fun message => !keep' message))
  refine List.Perm.trans (List.Perm.of_eq ?_) split
  rw [List.filter_filter,List.filter_filter]
  congr 1
  · refine List.filter_congr (fun message _ => ?_)
    cases stays : keep' message
    · simp
    · simp [narrower message stays]
  · exact List.filter_congr (fun message _ => by simp)

theorem map_id_keptBy (messages : List Message) (keep : Message → Bool) :
    (keptBy messages keep).map Message.id = (messages.filter keep).map Message.id := by
  simp [keptBy,List.map_map,Function.comp_def]

structure DividesInto (messages : List Message) (result : CompressResult) (keep : Message → Bool) :
    Prop where
  divides : Divides messages keep
  kept : result.kept = keptBy messages keep
  gone : ((result.summarized ++ result.discarded).map Message.id).Perm
    ((messages.filter (fun message => !keep message)).map Message.id)
  origins : ∀ out ∈ result.summarized ++ result.discarded,
    ∃ message ∈ messages, out = message ∨ out = compactRagMessage message

structure Stages (messages : List Message) (summary : Text) (first second : Message → Bool) : Prop where
  divides : Divides messages second
  first_le : ∀ message, first message = true → keptByGrading services options messages message = true
  second_le : ∀ message, second message = true → first message = true
  plan : splitKeptByBudget services (keptAfterGrading services options messages)
      options.tokenBudget options.existingSummary options.alwaysKeepRecent =
    (keptBy messages first,keptBy messages (fun message =>
      keptByGrading services options messages message && !first message))
  final : splitKeptByBudget services (keptBy messages first) options.tokenBudget summary
      options.alwaysKeepRecent =
    (keptBy messages second,keptBy messages (fun message => first message && !second message))
  oldest : messages.filter (fun message =>
      keptByGrading services options messages message && decide (message.kind ≠ .system)) =
    messages.filter (fun message =>
        keptByGrading services options messages message && !first message) ++
      messages.filter (fun message => first message && decide (message.kind ≠ .system))

theorem stages {messages : List Message} (arrived : Arrived messages) (summary : Text) :
    ∃ first second, Stages services options messages summary first second := by
  have graded := divides_grading services options arrived
  obtain ⟨first,once,first_le,plan,oldest⟩ := split_divides services arrived.refs graded options.tokenBudget
    options.existingSummary options.alwaysKeepRecent
  obtain ⟨second,twice,second_le,final,_⟩ := split_divides services arrived.refs once
    options.tokenBudget summary options.alwaysKeepRecent
  refine ⟨first,second,twice,first_le,second_le,?_,final,oldest⟩
  rw [kept_after_grading services options arrived.each]
  exact plan

theorem gone_perm {messages : List Message} (arrived : Arrived messages) {summary : Text}
    {first second : Message → Bool} (run : Stages services options messages summary first second) :
    (graded services options messages .summarize (placedTurns messages) ++
        messages.filter (fun message =>
          keptByGrading services options messages message && !first message) ++
        messages.filter (fun message => first message && !second message) ++
        graded services options messages .discard (placedTurns messages)).Perm
      (messages.filter (fun message => !second message)) := by
  have scored := gone_grading_perm services options arrived
  have budget := removed_perm messages run.first_le
  have last := removed_perm messages run.second_le
  rw [List.perm_iff_count] at scored budget last ⊢
  intro message
  have one := scored message
  have two := budget message
  have three := last message
  simp only [List.count_append] at one two three ⊢
  omega

theorem mem_keptBy {messages : List Message} {keep : Message → Bool} {out : Message}
    (member : out ∈ keptBy messages keep) : ∃ message ∈ messages, out = compactRagMessage message := by
  obtain ⟨message,inside,rfl⟩ := List.mem_map.mp member
  exact ⟨message,List.mem_of_mem_filter inside,rfl⟩

theorem Stages.divides_into {messages : List Message} (arrived : Arrived messages) {summary : Text}
    {first second : Message → Bool} (run : Stages services options messages summary first second) :
    DividesInto messages
      (finalizeCompression services options (planOver services options messages) summary) second := by
  have gradedInside {which : Grade} {message : Message}
      (member : message ∈ graded services options messages which (placedTurns messages)) :
      message ∈ messages := by
    obtain ⟨turn,here,_,inside⟩ := (mem_graded services options).mp member
    exact (mem_of_mem_placedTurn here inside).1
  refine ⟨run.divides,?_,?_,fun out member => ?_⟩
  · simp only [finalizeCompression,planOver,run.plan,run.final]
  · have gone := (gone_perm services options arrived run).map Message.id
    simp only [finalizeCompression,planOver,run.plan,run.final,grading_spec,List.map_append,
      map_id_keptBy,List.map_map]
    simpa [Function.comp_def] using gone
  · simp only [finalizeCompression,planOver,run.plan,run.final,grading_spec,List.mem_append] at member
    obtain ((scored | budget) | last) | discarded := member
    · obtain ⟨message,inside,rfl⟩ := List.mem_map.mp scored
      exact ⟨message,gradedInside inside,Or.inr rfl⟩
    · obtain ⟨message,inside,same⟩ := mem_keptBy budget
      exact ⟨message,inside,Or.inr same⟩
    · obtain ⟨message,inside,same⟩ := mem_keptBy last
      exact ⟨message,inside,Or.inr same⟩
    · exact ⟨out,gradedInside discarded,Or.inl rfl⟩

private theorem over_divides {messages : List Message} (arrived : Arrived messages) (summary : Text) :
    ∃ keep, DividesInto messages
      (finalizeCompression services options (planOver services options messages) summary) keep := by
  obtain ⟨first,second,run⟩ := stages services options arrived summary
  exact ⟨second,run.divides_into services options arrived⟩

omit [LinearOrder Score] [Zero Score] in
theorem divides_whole {messages : List Message} {result : CompressResult}
    (kept : result.kept = messages.map compactRagMessage)
    (gone : result.summarized ++ result.discarded = []) :
    DividesInto messages result (fun _ => true) := by
  refine ⟨⟨fun _ _ _ => rfl,fun _ _ => Or.inl (fun _ _ => rfl)⟩,?_,?_,fun out member => ?_⟩
  · rw [kept,keptBy,List.filter_true]
  · simp [gone]
  · rw [gone] at member
    cases member

theorem compress_divides (summarize : List Message → Text → Text) {messages : List Message}
    (arrived : Arrived messages) :
    ∃ keep, DividesInto messages (compressByImportance services options summarize messages) keep := by
  unfold compressByImportance planCompression
  dsimp only
  split_ifs with nothing within
  · refine ⟨_,divides_whole ?_ rfl⟩
    rw [nothing]
    rfl
  · exact ⟨_,divides_whole rfl rfl⟩
  · exact over_divides services options arrived _

/-- Kept, summarized and discarded together are the input: each message once, with the
id of its original, system messages kept as they are, the kept ones in order, and no
turn split between what is kept and what leaves. -/
structure Conserved (messages : List Message) (result : CompressResult) : Prop where
  once : ((result.kept ++ result.summarized ++ result.discarded).map Message.id).Perm
    (messages.map Message.id)
  distinct : ((result.kept ++ result.summarized ++ result.discarded).map Message.id).Nodup
  origins : ∀ out ∈ result.kept ++ result.summarized ++ result.discarded,
    ∃ message ∈ messages, out = message ∨ out = compactRagMessage message
  systems : ∀ message ∈ messages, message.kind = .system → message ∈ result.kept
  order : (result.kept.map Message.id).Sublist (messages.map Message.id)
  turns : ∀ turn ∈ (Turns.partitionTurns placedKind (enumerate messages)).2,
    (∀ item ∈ turn, item.2.id ∈ result.kept.map Message.id) ∨
      ∀ item ∈ turn, item.2.id ∈ (result.summarized ++ result.discarded).map Message.id

theorem DividesInto.conserved {messages : List Message} (arrived : Arrived messages)
    {result : CompressResult} {keep : Message → Bool} (run : DividesInto messages result keep) :
    Conserved messages result := by
  have once : ((result.kept ++ result.summarized ++ result.discarded).map Message.id).Perm
      (messages.map Message.id) := by
    rw [List.append_assoc,List.map_append,run.kept,map_id_keptBy]
    refine (run.gone.append_left _).trans ?_
    rw [← List.map_append]
    exact (List.filter_append_perm keep messages).map Message.id
  refine ⟨once,once.nodup_iff.mpr arrived.ids,fun out member => ?_,fun message member system => ?_,?_,
    fun turn listed => ?_⟩
  · rw [List.append_assoc,List.mem_append] at member
    rcases member with kept | gone
    · rw [run.kept] at kept
      obtain ⟨message,inside,same⟩ := mem_keptBy kept
      exact ⟨message,inside,Or.inr same⟩
    · exact run.origins out gone
  · rw [run.kept,← compact_system system]
    exact List.mem_map_of_mem (List.mem_filter.mpr ⟨member,run.divides.systems message member system⟩)
  · rw [run.kept,map_id_keptBy]
    exact List.filter_sublist.map Message.id
  · have seen : turn.map Prod.snd ∈ Turns.turns Message.kind messages := by
      rw [← turns_enumerate]
      exact List.mem_map_of_mem listed
    have inside {item : Placed} (member : item ∈ turn) : item.2 ∈ messages :=
      (mem_of_mem_placedTurn listed (List.mem_map_of_mem member)).1
    rcases run.divides.whole _ seen with stays | goes
    · refine Or.inl (fun item member => ?_)
      rw [run.kept,map_id_keptBy]
      exact List.mem_map_of_mem (List.mem_filter.mpr
        ⟨inside member,stays _ (List.mem_map_of_mem member)⟩)
    · refine Or.inr (fun item member => run.gone.mem_iff.mpr ?_)
      exact List.mem_map_of_mem (List.mem_filter.mpr
        ⟨inside member,by simp [goes _ (List.mem_map_of_mem member)]⟩)

/-- Compression conserves messages, for every scoring, token counter and summarizer. -/
theorem compression_conserves (summarize : List Message → Text → Text) (messages : List Message)
    (arrived : Arrived messages) :
    Conserved messages (compressByImportance services options summarize messages) := by
  obtain ⟨keep,run⟩ := compress_divides services options summarize arrived
  exact run.conserved arrived

end

/-- A score for each message by its object, and a token for each character. -/
def tableServices (scores : List Int) : Services Int where
  scoreMessage message _ := scores.getD message.ref 0
  countTokens text := text.length

def spoken (kind : Kind) (ref : Nat) (text : String) : Message where
  kind := kind
  id := some [Char.ofNat (97 + ref)]
  text := text.toList
  ref := ref
  copy := false

/-- A system message, a turn that is discarded and two turns of which one fits. -/
theorem compression_conserves_three_turns :
    Conserved
      [spoken .system 0 "设定",spoken .human 1 "你好",spoken .ai 2 "你好",spoken .human 3 "退款",
        spoken .ai 4 "退款审核中",spoken .human 5 "进度"]
      (compressByImportance (tableServices [0,0,0,9,9,9]) ⟨12,none,1,3,6,4,[],none⟩
        (ruleSummarize (⟨12,none,1,3,6,4,[],none⟩ : Options Int))
        [spoken .system 0 "设定",spoken .human 1 "你好",spoken .ai 2 "你好",spoken .human 3 "退款",
          spoken .ai 4 "退款审核中",spoken .human 5 "进度"]) :=
  compression_conserves _ _ _ _ ⟨by decide,by decide,by decide⟩

end CustomerService.SummaryFacts
