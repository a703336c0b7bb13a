import CustomerService.SummaryClip
import CustomerService.SummaryRoundTrip

/-! Exclusive labels through merging, rendering and reading: the label of a group that is
read back is the last one that was listed. -/
namespace CustomerService.SummaryFacts

open Text StructuredSummary

def lastIn (group items : List Text) : Option Text := (items.filter group.contains).getLast?

theorem lastIn_append (group first second : List Text) :
    lastIn group (first ++ second) = (lastIn group second).or (lastIn group first) := by
  rw [lastIn,List.filter_append,List.getLast?_append]
  rfl

theorem lastIn_mem {group items : List Text} {label : Text} (last : lastIn group items = some label) :
    label ∈ items ∧ label ∈ group := by
  have inside := List.mem_of_getLast? last
  simpa using inside

theorem lastIn_none {group items : List Text} :
    lastIn group items = none ↔ ∀ item ∈ items, item ∉ group := by
  simp [lastIn]

private theorem lastIn_suffix {group items part : List Text} {label : Text} (suffix : part <:+ items)
    (last : lastIn group part = some label) : lastIn group items = some label := by
  obtain ⟨front,rfl⟩ := suffix
  rw [lastIn_append,last,Option.some_or]

section
variable {group : List Text} (listed : group ∈ exclusiveLabelGroups)
include listed

private theorem lastIn_latest (items : List Text) :
    lastIn group (Recency.latest groupKey items) = lastIn group items := by
  induction items using List.reverseRecOn with
  | nil => rfl
  | append_singleton items item ih =>
    rw [Recency.latest_concat,Recency.push,lastIn_append,lastIn_append,← ih]
    by_cases member : item ∈ group
    · have last : lastIn group [item] = some item := by simp [lastIn,member]
      rw [last,Option.some_or,Option.some_or]
    · have none' : lastIn group [item] = none := by simp [lastIn,member]
      rw [none',Option.none_or,Option.none_or,lastIn,List.filter_filter,lastIn]
      congr 1
      refine List.filter_congr (fun other _ => ?_)
      by_cases inside : other ∈ group
      · have apart : ¬groupKey other = groupKey item := fun same =>
          member ((groupKey_eq_iff listed inside item).mp same.symm)
        simp [inside,apart]
      · simp [inside]

private theorem lastIn_of_nodup {items : List Text} (distinct : (items.map groupKey).Nodup) {label : Text}
    (member : label ∈ items) (inside : label ∈ group) : lastIn group items = some label := by
  cases last : lastIn group items with
  | none => exact absurd inside (lastIn_none.mp last label member)
  | some other =>
    obtain ⟨here,also⟩ := lastIn_mem last
    rw [List.inj_on_of_nodup_map distinct here member (groupKey_eq listed also inside)]

end

/-! A summary that is rendered and read. -/

/-- A summary and the confirmed labels that are listed for it, before the cap. -/
structure Rendering where
  labels : List Text
  summary : StructuredSummary

/-- The labels are capped, the rest is settled and holds no line break. -/
structure Rendering.Proper (rendering : Rendering) : Prop where
  settled : Settled rendering.summary
  confirmed : rendering.summary.confirmed = lastUsed groupKey 6 rendering.labels
  orders : ∀ fact ∈ rendering.summary.orders, NoBreak fact
  courses : ∀ fact ∈ rendering.summary.courses, NoBreak fact

theorem Rendering.Proper.tidy {rendering : Rendering} (proper : rendering.Proper) :
    Tidy rendering.summary where
  orders fact member := ⟨proper.settled.orders fact member,proper.orders fact member⟩
  courses fact member := ⟨proper.settled.courses fact member,proper.courses fact member⟩
  intent := proper.settled.intent
  confirmed := proper.settled.confirmed
  pending fact member := ⟨(proper.settled.pending fact member).1,
    (proper.settled.pending fact member).2.2⟩

def Rendering.Lossless (rendering : Rendering) (maxChars : Option Int) : Prop :=
  (Recency.latest groupKey rendering.labels).length ≤ 6 ∧ Fits rendering.summary maxChars

instance (rendering : Rendering) (maxChars : Option Int) : Decidable (rendering.Lossless maxChars) :=
  inferInstanceAs (Decidable (_ ∧ _))

/-- The text is a rendering of the summary, clipped only by whole entries. -/
def Rendering.Gives (rendering : Rendering) (maxChars : Option Int) (text : Text) : Prop :=
  ∃ smaller, Clipped rendering.summary smaller ∧ text = smaller.lines ∧
    (Fits rendering.summary maxChars → text = rendering.summary.lines)

def confirmedOf (text : Text) : List Text := (parse (some text)).confirmed

section
variable {rendering : Rendering} (proper : rendering.Proper) {maxChars : Option Int} {text : Text}
  (gives : rendering.Gives maxChars text)
include proper gives

private theorem read_confirmed : ∃ part, part <:+ Recency.latest groupKey rendering.labels ∧
    confirmedOf text = reread part ∧
    (rendering.Lossless maxChars → part = Recency.latest groupKey rendering.labels) := by
  obtain ⟨smaller,clipped,same,whole⟩ := gives
  have short : rendering.summary.confirmed <:+ Recency.latest groupKey rendering.labels := by
    rw [proper.confirmed]
    exact List.drop_suffix _ _
  by_cases lossless : rendering.Lossless maxChars
  · refine ⟨Recency.latest groupKey rendering.labels,List.suffix_refl _,?_,fun _ => rfl⟩
    rw [confirmedOf,whole lossless.2,parse_lines proper.tidy,proper.confirmed,lastUsed,
      Recency.rtake_eq_self lossless.1]
  · refine ⟨smaller.confirmed,clipped.confirmed.trans short,?_,fun here => absurd here lossless⟩
    rw [confirmedOf,same,parse_lines (proper.tidy.clipped clipped)]

private theorem read_unsplit : ∀ fact ∈ confirmedOf text, Unsplit fact := by
  obtain ⟨part,_,same,_⟩ := read_confirmed proper gives
  intro fact member
  rw [same] at member
  exact (mem_splitFacts member).2.1

variable {group : List Text} (listed : group ∈ exclusiveLabelGroups)
include listed

private theorem read_of_unsplit (solid : ∀ fact ∈ rendering.labels, Solid fact)
    (unsplit : ∀ fact ∈ rendering.labels, Unsplit fact) :
    ((confirmedOf text).map groupKey).Nodup ∧
    (∀ label, lastIn group (confirmedOf text) = some label →
      lastIn group rendering.labels = some label) ∧
    (rendering.Lossless maxChars →
      lastIn group (confirmedOf text) = lastIn group rendering.labels) := by
  obtain ⟨part,suffix,same,whole⟩ := read_confirmed proper gives
  have inside {fact : Text} (member : fact ∈ part) : fact ∈ rendering.labels :=
    Recency.mem_of_mem_latest groupKey (suffix.subset member)
  rw [same,reread_of_unsplit (fun fact member => solid fact (inside member))
    (fun fact member => unsplit fact (inside member))]
  refine ⟨(Recency.nodup_latest groupKey _).sublist (suffix.sublist.map groupKey),
    fun label last => ?_,fun lossless => ?_⟩
  · rw [← lastIn_latest listed]
    exact lastIn_suffix suffix last
  · rw [whole lossless,lastIn_latest listed]

private theorem read_of_contributed {old new : List Text} (labels : rendering.labels = old ++ new)
    (plain : ∀ fact ∈ new, Solid fact ∧ Unsplit fact) {last : Text}
    (contributed : lastIn group new = some last) :
    (∀ label, lastIn group (confirmedOf text) = some label → label = last) ∧
    (rendering.Lossless maxChars → lastIn group (confirmedOf text) = some last) := by
  obtain ⟨part,suffix,same,whole⟩ := read_confirmed proper gives
  have late : lastIn group (Recency.latest groupKey new) = some last :=
    (lastIn_latest listed new).trans contributed
  have fine : ∀ fact ∈ Recency.latest groupKey new, Solid fact ∧ Unsplit fact := fun fact member =>
    plain fact (Recency.mem_of_mem_latest groupKey member)
  have kept {part : List Text} (inside : part ⊆ Recency.latest groupKey new) : reread part = part :=
    reread_of_unsplit (fun fact member => (fine fact (inside member)).1)
      (fun fact member => (fine fact (inside member)).2)
  have behind (front : List Text) :
      lastIn group (reread (front ++ Recency.latest groupKey new)) = some last := by
    rw [reread_eq,List.flatMap_append,← reread_eq,← reread_eq,kept (fun _ => id),lastIn_append,late,
      Option.some_or]
  rw [labels,Recency.latest_append] at suffix whole
  rw [same]
  constructor
  · intro label found
    rcases List.suffix_or_suffix_of_suffix suffix (List.suffix_append _ _) with short | ⟨front,long⟩
    · rw [kept short.subset] at found
      exact Option.some.inj ((lastIn_suffix short found).symm.trans late)
    · rw [← long,behind] at found
      exact (Option.some.inj found).symm
  · intro lossless
    rw [whole lossless]
    exact behind _

end

/-! The renderings of a fold and of the finalizing step. -/

def foldRendering (slots : Option SessionSlots) (text : Text) (overflow : List Message) : Rendering where
  labels := confirmedOf text ++ contributions (·.confirmed) slots overflow
  summary := foldedSummary (some text) overflow slots

def finalRendering (slots : Option SessionSlots) (text : Text) : Rendering where
  labels := confirmedOf text
  summary := (parse (some text)).resolve slots

/-- No course name found in the messages holds a line break. -/
def UnbrokenNames (messages : List Message) : Prop :=
  ∀ message ∈ messages, ∀ name ∈ extractCourseNames (strip message.text), NoBreak name

instance (messages : List Message) : Decidable (UnbrokenNames messages) :=
  decidable_of_iff (messages.all (fun message =>
    (extractCourseNames (strip message.text)).all (fun name => decide (NoBreak name))) = true)
    (by simp [UnbrokenNames])

private theorem unbroken_decorate {head : Text} {labels : List Text} (solid : Solid head)
    (unbroken : NoBreak head) (fine : ∀ label ∈ labels, Solid label ∧ Atomic label) :
    NoBreak (decorate head labels) := by
  rw [decorate_eq solid (fun label member => (fine label member).1)]
  split_ifs
  · exact unbroken
  · intro char inside
    rcases List.mem_append.mp inside with early | late
    · exact unbroken char early
    · rcases List.mem_cons.mp late with rfl | suffix
      · decide
      · rcases mem_join suffix with between | ⟨label,listed,here⟩
        · rw [List.mem_singleton.mp between]
          decide
        · exact (fine label (List.mem_of_mem_take listed)).2.2 char here

private theorem unbroken_orderFact {text fact : Text} {slots : Option SessionSlots}
    (member : fact ∈ orderFacts text slots) : NoBreak fact := by
  unfold orderFacts at member
  cases found : extractOrderNo text with
  | none =>
    rw [found] at member
    cases member
  | some number =>
    rw [found] at member
    dsimp only at member
    split_ifs at member with skipped
    · cases member
    · obtain ⟨tight,atomic⟩ := plain_orderNo found
      rw [List.mem_singleton.mp member]
      exact unbroken_decorate ⟨fun nothing => skipped (Or.inl nothing),tight⟩ atomic.2
        (fun label => plain_matchLabels (by simp [patternTables]))

private theorem proper_fold (slots : Option SessionSlots) (text : Text) {overflow : List Message}
    (names : UnbrokenNames overflow) : (foldRendering slots text overflow).Proper := by
  have sound := sound_parse (some text)
  refine ⟨settled_folded _ _ _,folded_confirmed _ _ _,fun fact member => ?_,fun fact member => ?_⟩
  · have inside : fact ∈ (foldedSummary (some text) overflow slots).orders := member
    rw [folded_orders,Recency.pushAll_eq] at inside
    rcases Recency.mem_rtake_append inside with old | new
    · exact (sound.orders fact (List.mem_of_mem_filter old)).2
    · obtain ⟨message,_,item,listed,rfl⟩ := mem_contributions (mem_of_mem_lastUsed new)
      rw [factsOf_orders] at listed
      rw [strip_of_tight (orderFact_plain listed).1.2]
      exact unbroken_orderFact listed
  · have inside : fact ∈ (foldedSummary (some text) overflow slots).courses := member
    rw [folded_courses,Recency.pushAll_eq] at inside
    rcases Recency.mem_rtake_append inside with old | new
    · exact (sound.courses fact (List.mem_of_mem_filter old)).2
    · obtain ⟨message,here,item,listed,rfl⟩ := mem_contributions (mem_of_mem_lastUsed new)
      rw [factsOf_courses] at listed
      obtain ⟨solid,name,named,same,_⟩ := courseFact_plain listed
      rw [strip_of_tight solid.2,same]
      exact unbroken_decorate (solid_courseName named) (names message here name named)
        (fun label => plain_matchLabels (by simp [patternTables]))

private theorem solid_confirmedOf (text : Text) : ∀ fact ∈ confirmedOf text, Solid fact := fun fact member =>
  ((sound_parse (some text)).confirmed fact member).1

private theorem proper_final (slots : Option SessionSlots) (text : Text) :
    (finalRendering slots text).Proper := by
  have sound := sound_parse (some text)
  have confirmed : ((parse (some text)).resolve slots).confirmed =
      lastUsed groupKey 6 (confirmedOf text) := by
    show applyExclusiveSequence (confirmedOf text) (some 6) = _
    rw [applyExclusiveSequence_eq,cleaned_of_solid (solid_confirmedOf text)]
    rfl
  refine ⟨⟨fun fact member => (sound.orders fact member).1,
    fun fact member => (sound.courses fact member).1,sound.intent,fun fact member => ?_,
    fun fact member => ?_⟩,confirmed,fun fact member => (sound.orders fact member).2,
    fun fact member => (sound.courses fact member).2⟩
  · have inside : fact ∈ ((parse (some text)).resolve slots).confirmed := member
    rw [confirmed] at inside
    exact sound.confirmed fact (mem_of_mem_lastUsed inside)
  · have inside := mem_resolve_pending slots member
    have fine := sound.pending fact inside
    exact ⟨fine.1,sound.pending_unsplit fact inside,fine.2⟩

section
variable {slots : Option SessionSlots} {maxChars : Option Int} {text : Text} {overflow : List Message}

private theorem gives_finalize {labels : List Text} {summary : StructuredSummary}
    (uncut : Uncut (summary.resolve slots) maxChars) :
    Rendering.Gives ⟨labels,summary.resolve slots⟩ maxChars
      (finalizeStructured summary slots maxChars) := by
  obtain ⟨smaller,clipped,same⟩ := finalize_spec uncut
  exact ⟨smaller,clipped,same,finalize_of_fits⟩

private theorem gives_fold (uncut : Uncut (foldRendering slots text overflow).summary maxChars) :
    (foldRendering slots text overflow).Gives maxChars
      (foldSessionSummary (some text) overflow maxChars slots) := gives_finalize uncut

private theorem gives_final (uncut : Uncut (finalRendering slots text).summary maxChars) :
    (finalRendering slots text).Gives maxChars (finalizeSummary (some text) slots maxChars) :=
  gives_finalize uncut

/-! What a summary carries of a group. -/

/-- No confirmed fact is split, and a label of the group that stands last is this one. -/
structure Carries (group : List Text) (label text : Text) : Prop where
  unsplit : ∀ fact ∈ confirmedOf text, Unsplit fact
  last : ∀ other, lastIn group (confirmedOf text) = some other → other = label

variable {group : List Text} (listed : group ∈ exclusiveLabelGroups) {label : Text}
include listed

theorem carries_contributed (names : UnbrokenNames overflow)
    (uncut : Uncut (foldRendering slots text overflow).summary maxChars)
    (contributed : lastIn group (contributions (·.confirmed) slots overflow) = some label) :
    Carries group label (foldSessionSummary (some text) overflow maxChars slots) ∧
      ((foldRendering slots text overflow).Lossless maxChars →
        lastIn group (confirmedOf (foldSessionSummary (some text) overflow maxChars slots)) =
          some label) := by
  have proper := proper_fold slots text names
  have gives := gives_fold uncut
  have read := read_of_contributed proper gives listed rfl (fun fact member => by
    have plain := contributed_label_plain (Or.inl member)
    exact ⟨plain.1,plain.2.1⟩) contributed
  exact ⟨⟨read_unsplit proper gives,read.1⟩,read.2⟩

theorem carries_fold (carries : Carries group label text) (names : UnbrokenNames overflow)
    (uncut : Uncut (foldRendering slots text overflow).summary maxChars)
    (nothing : lastIn group (contributions (·.confirmed) slots overflow) = none) :
    Carries group label (foldSessionSummary (some text) overflow maxChars slots) ∧
      ((foldRendering slots text overflow).Lossless maxChars →
        lastIn group (confirmedOf (foldSessionSummary (some text) overflow maxChars slots)) =
          lastIn group (confirmedOf text)) := by
  have proper := proper_fold slots text names
  have gives := gives_fold uncut
  have labels : lastIn group (foldRendering slots text overflow).labels =
      lastIn group (confirmedOf text) := by
    show lastIn group (_ ++ _) = _
    rw [lastIn_append,nothing,Option.none_or]
  obtain ⟨_,last,whole⟩ := read_of_unsplit proper gives listed (fun fact member => by
    rcases List.mem_append.mp member with old | new
    · exact solid_confirmedOf text fact old
    · exact (contributed_label_plain (Or.inl new)).1) (fun fact member => by
    rcases List.mem_append.mp member with old | new
    · exact carries.unsplit fact old
    · exact (contributed_label_plain (Or.inl new)).2.1)
  rw [labels] at last whole
  exact ⟨⟨read_unsplit proper gives,fun other found => carries.last other (last other found)⟩,whole⟩

theorem carries_final (carries : Carries group label text)
    (uncut : Uncut (finalRendering slots text).summary maxChars) :
    (∀ other ∈ confirmedOf (finalizeSummary (some text) slots maxChars), other ∈ group →
        other = label) ∧
      ((finalRendering slots text).Lossless maxChars →
        lastIn group (confirmedOf (finalizeSummary (some text) slots maxChars)) =
          lastIn group (confirmedOf text)) := by
  obtain ⟨distinct,last,whole⟩ := read_of_unsplit (proper_final slots text) (gives_final uncut) listed
    (solid_confirmedOf text) carries.unsplit
  refine ⟨fun other member inside => ?_,whole⟩
  exact carries.last other (last other (lastIn_of_nodup listed distinct member inside))

end

end CustomerService.SummaryFacts
