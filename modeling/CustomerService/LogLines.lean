import CustomerService.Harvest

/-! The log as text: one JSON object a line, whatever is logged. -/
namespace CustomerService.LogLines

open Text Json

/-- A record after the filter that adds the context of the request; `none` among the fields is `None`. -/
structure LogRecord where
  level : Text
  logger : Text
  msg : Text
  requestId : Text
  tenantId : Text
  userId : Text
  traceId : Text
  spanId : Text
  cs : Dict Text (Option Json)
  exc : Option Text
  fits : ∀ entry ∈ cs.entries, ∀ value ∈ entry.2, value.valid = true

/-- The fields of the record itself, the empty ones left out. -/
def LogRecord.own (record : LogRecord) (ts : Text) : List (Text × Json) :=
  [("ts".toList,.str ts),("level".toList,.str record.level),("logger".toList,.str record.logger),
    ("msg".toList,.str record.msg)] ++
  ([("request_id".toList,record.requestId),("tenant_id".toList,record.tenantId),("user_id".toList,record.userId),
    ("trace_id".toList,record.traceId),("span_id".toList,record.spanId)].filter (fun field => !field.2.isEmpty)).map
      (fun field => (field.1,.str field.2))

/-- The loop over `extra`. -/
def mergeExtra (payload : Dict Text Json) : List (Text × Option Json) → Dict Text Json
  | [] => payload
  | (_,none)::rest => mergeExtra payload rest
  | (key,some value)::rest =>
    mergeExtra (if payload.keys.contains key then payload else payload.set key value) rest

def LogRecord.payload (record : LogRecord) (ts : Text) : Dict Text Json :=
  let merged := mergeExtra (Dict.update ∅ (record.own ts)) record.cs.entries
  match record.exc with
  | none => merged
  | some trace => merged.set "exc".toList (.str trace)

/-- `JsonFormatter.format`. -/
def LogRecord.format (record : LogRecord) (ts : Text) : Text := dumps (obj (record.payload ts).entries)

def written (lines : List (Text × LogRecord)) : Text :=
  lines.flatMap (fun line => line.2.format line.1 ++ ['\n'])

def linesOf : Text → List Text
  | [] => []
  | char::rest =>
    if char = '\n' then []::linesOf rest
    else match linesOf rest with
      | [] => [[char]]
      | line::lines => (char::line)::lines

private theorem linesOf_line {line rest : Text} (unbroken : '\n' ∉ line) :
    linesOf (line ++ '\n'::rest) = line::linesOf rest := by
  induction line with
  | nil => rfl
  | cons char others ih =>
    obtain ⟨here,later⟩ := List.ne_and_not_mem_of_not_mem_cons unbroken
    rw [List.cons_append,linesOf,if_neg (Ne.symm here),ih later]

/-! ### What a line holds -/

theorem mergeExtra_present {payload : Dict Text Json} {key : Text} {value : Json} (held : payload.get? key = some value)
    (fields : List (Text × Option Json)) : (mergeExtra payload fields).get? key = some value := by
  induction fields generalizing payload with
  | nil => exact held
  | cons field rest ih =>
    obtain ⟨name,_ | given⟩ := field
    · exact ih held
    · refine ih ?_
      split_ifs with there
      · exact held
      · have other : key ≠ name := by
          rintro rfl
          refine there (List.contains_iff_mem.mpr ((Dict.get?_isSome _ _).mp ?_))
          rw [held]
          rfl
        rw [Dict.get?_set,if_neg other,held]

private theorem mergeExtra_absent {payload : Dict Text Json} {key : Text} (absent : payload.get? key = none)
    {fields : List (Text × Option Json)} (unnamed : key ∉ fields.map Prod.fst) :
    (mergeExtra payload fields).get? key = none := by
  induction fields generalizing payload with
  | nil => exact absent
  | cons field rest ih =>
    obtain ⟨other,later⟩ := List.ne_and_not_mem_of_not_mem_cons unnamed
    obtain ⟨name,_ | given⟩ := field
    · exact ih absent later
    · refine ih ?_ later
      split_ifs
      · exact absent
      · rw [Dict.get?_set,if_neg other,absent]

private theorem mergeExtra_get {payload : Dict Text Json} {key : Text} (absent : payload.get? key = none)
    (fields : Dict Text (Option Json)) : (mergeExtra payload fields.entries).get? key = (fields.get? key).join := by
  cases held : fields.get? key with
  | none => exact mergeExtra_absent absent ((Dict.get?_eq_none _ _).mp held)
  | some value =>
    have inside := (Dict.get?_eq_some _ _ _).mp held
    obtain ⟨front,back,split⟩ := List.append_of_mem inside
    have distinct := fields.distinct
    rw [split,List.map_append,List.map_cons] at distinct
    have before : key ∉ front.map Prod.fst := fun there =>
      (List.nodup_append.mp distinct).2.2 key there key List.mem_cons_self rfl
    have after : key ∉ back.map Prod.fst := (List.nodup_cons.mp (List.nodup_append.mp distinct).2.1).1
    have general (fields : List (Text × Option Json)) (payload : Dict Text Json) (absent : payload.get? key = none)
        (unnamed : key ∉ fields.map Prod.fst) :
        (mergeExtra payload (fields ++ (key,value)::back)).get? key = value := by
      induction fields generalizing payload with
      | nil =>
        cases value with
        | none =>
          change (mergeExtra payload back).get? key = none
          exact mergeExtra_absent absent after
        | some value =>
          refine mergeExtra_present ?_ back
          have new : ¬payload.keys.contains key = true := fun there =>
            (Dict.get?_eq_none _ _).mp absent (List.contains_iff_mem.mp there)
          rw [if_neg new,Dict.get?_set,if_pos rfl]
      | cons field rest ih =>
        obtain ⟨other,later⟩ := List.ne_and_not_mem_of_not_mem_cons unnamed
        obtain ⟨name,_ | given⟩ := field
        · exact ih payload absent later
        · refine ih _ ?_ later
          split_ifs
          · exact absent
          · rw [Dict.get?_set,if_neg other,absent]
    rw [split,general front payload absent before]
    rfl

private theorem own_distinct (record : LogRecord) (ts : Text) : ((record.own ts).map Prod.fst).Nodup := by
  have names : (["ts","level","logger","msg"].map String.toList ++
      ["request_id","tenant_id","user_id","trace_id","span_id"].map String.toList).Nodup := by decide
  refine names.sublist ?_
  unfold LogRecord.own
  rw [List.map_append,List.map_map]
  exact (List.Sublist.refl _).append (List.filter_sublist.map Prod.fst)

theorem own_entries (record : LogRecord) (ts : Text) : (Dict.update ∅ (record.own ts)).entries = record.own ts :=
  Dict.update_disjoint ∅ _ (own_distinct record ts)

private theorem exc_unowned (record : LogRecord) (ts : Text) : "exc".toList ∉ (record.own ts).map Prod.fst := by
  have names : "exc".toList ∉ ["ts","level","logger","msg"].map String.toList ++
      ["request_id","tenant_id","user_id","trace_id","span_id"].map String.toList := by decide
  intro there
  refine names (List.Sublist.subset ?_ there)
  unfold LogRecord.own
  rw [List.map_append,List.map_map]
  exact (List.Sublist.refl _).append (List.filter_sublist.map Prod.fst)

theorem payload_own (record : LogRecord) (ts : Text) {field : Text × Json} (owned : field ∈ record.own ts) :
    (record.payload ts).get? field.1 = some field.2 := by
  have held : (Dict.update ∅ (record.own ts)).get? field.1 = some field.2 := by
    rw [Dict.get?_eq_some,own_entries]
    exact owned
  have merged := mergeExtra_present held record.cs.entries
  unfold LogRecord.payload
  cases record.exc with
  | none => exact merged
  | some trace =>
    have other : field.1 ≠ "exc".toList := fun same => exc_unowned record ts (same ▸ List.mem_map_of_mem owned)
    dsimp only
    rw [Dict.get?_set,if_neg other,merged]

theorem payload_extra (record : LogRecord) (ts : Text) {key : Text} (unowned : key ∉ (record.own ts).map Prod.fst)
    (other : key ≠ "exc".toList) : (record.payload ts).get? key = (record.cs.get? key).join := by
  have absent : (Dict.update ∅ (record.own ts)).get? key = none := by
    rw [Dict.get?_eq_none,Dict.keys,own_entries]
    exact unowned
  have merged := mergeExtra_get absent record.cs
  unfold LogRecord.payload
  cases record.exc with
  | none => exact merged
  | some trace =>
    dsimp only
    rw [Dict.get?_set,if_neg other,merged]

private theorem valid_mergeExtra {payload : Dict Text Json} (good : validPairs payload.entries = true)
    {fields : List (Text × Option Json)} (fits : ∀ entry ∈ fields, ∀ value ∈ entry.2, value.valid = true) :
    validPairs (mergeExtra payload fields).entries = true := by
  induction fields generalizing payload with
  | nil => exact good
  | cons field rest ih =>
    obtain ⟨here,later⟩ := List.forall_mem_cons.mp fits
    obtain ⟨name,_ | given⟩ := field
    · exact ih good later
    · refine ih ?_ later
      split_ifs
      · exact good
      · exact Harvest.validPairs_set good (here given rfl)

theorem valid_payload (record : LogRecord) (ts : Text) : (obj (record.payload ts).entries).valid = true := by
  have own : validPairs (Dict.update ∅ (record.own ts)).entries = true := by
    rw [own_entries,Harvest.validPairs_iff]
    intro field owned
    simp only [LogRecord.own,List.mem_append,List.mem_cons,List.mem_map,List.not_mem_nil,or_false] at owned
    rcases owned with (rfl | rfl | rfl | rfl) | ⟨_,_,rfl⟩ <;> rfl
  have merged := valid_mergeExtra own record.fits
  refine Bool.and_eq_true_iff.mpr ⟨decide_eq_true (record.payload ts).distinct,?_⟩
  unfold LogRecord.payload
  cases record.exc with
  | none => exact merged
  | some trace => exact Harvest.validPairs_set merged rfl

/-- Whatever is logged, each record is one line of the log, and the line reads back as an object with the fields of the
record itself, which no extra field can replace, and beside them the extra fields that are not `None`. -/
theorem log_reads_back (lines : List (Text × LogRecord)) :
    (linesOf (written lines)).map loads = lines.map (fun line => some (obj (line.2.payload line.1).entries)) ∧
    ∀ line ∈ lines, (∀ field ∈ line.2.own line.1, (line.2.payload line.1).get? field.1 = some field.2) ∧
      ∀ key, key ∉ (line.2.own line.1).map Prod.fst → key ≠ "exc".toList →
        (line.2.payload line.1).get? key = (line.2.cs.get? key).join := by
  refine ⟨?_,fun line _ => ⟨fun field => payload_own line.2 line.1,fun key => payload_extra line.2 line.1⟩⟩
  induction lines with
  | nil => rfl
  | cons line rest ih =>
    have valid := valid_payload line.2 line.1
    have first : written (line::rest) = line.2.format line.1 ++ '\n'::written rest := by
      rw [written,List.flatMap_cons,List.append_assoc,List.singleton_append]
      rfl
    rw [first,LogRecord.format,linesOf_line (newline_dumps _ valid),List.map_cons,List.map_cons,ih,loads_dumps valid]

end CustomerService.LogLines
