import SupportGuard.Agent.ContextAssembly
import SupportGuard.Foundation.Table

/-! # What the context keeps and what it reports

Every item of the history is in the packet or in the manifest, and the packet is within its
budget. -/

namespace SupportGuard

open Foundation Fallible

namespace ContextAssembler

/-! ## Reading a dictionary after a change -/

theorem lookup_remove_of_ne {members : JsonMembers} {key other : String} (different : other ≠ key) :
    (remove members key).lookup other = members.lookup other := by
  induction members with
  | nil => rfl
  | cons member rest induction =>
      rcases member with ⟨name, value⟩
      rw [remove] at induction ⊢
      rw [List.filter_cons]
      by_cases same : name = key
      · subst same
        simp only [ne_eq, not_true_eq_false, decide_false, Bool.false_eq_true, if_false]
        rw [induction, List.lookup_cons, beq_false_of_ne different]
      · simp only [ne_eq, same, not_false_eq_true, decide_true, if_true]
        rw [List.lookup_cons, List.lookup_cons, induction]

/-- Two dictionaries that differ at most in their marks. -/
def SameButMark (left right : JsonMembers) : Prop :=
  ∀ key, key ≠ "retention" → left.lookup key = right.lookup key

namespace SameButMark

variable {left right : JsonMembers}

theorem trans {third : JsonMembers} (same : SameButMark left right)
    (next : SameButMark right third) : SameButMark left third :=
  fun key other => (same key other).trans (next key other)

theorem value (same : SameButMark left right) {key : String} (other : key ≠ "retention") :
    left.value key = right.value key := by
  rw [JsonMembers.value, JsonMembers.value, same key other]

theorem isMessage (same : SameButMark left right) :
    ContextAssembler.isMessage left = ContextAssembler.isMessage right := by
  rw [ContextAssembler.isMessage, ContextAssembler.isMessage, same.value (by decide)]

theorem firstText (same : SameButMark left right) (str : Json → String) {keys : List String}
    (others : "retention" ∉ keys) (default : String) :
    ContextAssembler.firstText str left keys default =
      ContextAssembler.firstText str right keys default := by
  have values : keys.map left.value = keys.map right.value := by
    apply List.map_congr_left
    intro key member
    exact same.value fun equal => others (equal ▸ member)
  rw [ContextAssembler.firstText, ContextAssembler.firstText, values]

theorem historyOmission (same : SameButMark left right) (str : Json → String)
    (reason : String) :
    ContextAssembler.historyOmission str left reason =
      ContextAssembler.historyOmission str right reason := by
  simp only [ContextAssembler.historyOmission]
  rw [same.firstText str (by decide), same.firstText str (by decide),
    same.firstText str (by decide), same.firstText str (by decide)]

end SameButMark

theorem sameButMark_unmarked (value : JsonMembers) : SameButMark (unmarked value) value := by
  intro key other
  rw [unmarked]
  split
  · exact lookup_remove_of_ne other
  · rfl

theorem sameButMark_assign (value : JsonMembers) (mark : Json) :
    SameButMark (assign value "retention" mark) value :=
  fun _ other => lookup_assign_of_ne other

section

variable (str : Json → String)

/-! ## Duplicates -/

/-- The records of items that were left out, each with its reason. -/
def records (dropped : List (JsonMembers × String)) : List Omission :=
  dropped.map fun item => historyOmission str item.1 item.2

/-- Messages are told apart by their identifiers and other items by their contents. -/
def historyKey (value : JsonMembers) : String ⊕ String :=
  if isMessage value then .inl (str (value.value "message_id"))
  else .inr (contextHash (.object value))

/-- What holds of a scan that has read some items. -/
structure ScanSound (read : List JsonMembers) (scan : HistoryScan) : Prop where
  messages : ∀ id, id ∈ scan.seenMessageIds.map Prod.fst ↔
    Sum.inl id ∈ scan.normalized.map (historyKey str)
  others : ∀ hash, hash ∈ scan.seenOtherHashes ↔
    Sum.inr hash ∈ scan.normalized.map (historyKey str)
  distinct : (scan.normalized.map (historyKey str)).Nodup
  whole : ∃ duplicates, scan.omitted = records str duplicates ∧
    (scan.normalized ++ duplicates.map Prod.fst).Perm read

namespace ScanSound

variable {str} {read : List JsonMembers} {scan : HistoryScan} {value : JsonMembers}

theorem empty : ScanSound str [] {} := by
  refine ⟨fun _ => ?_, fun _ => ?_, List.nodup_nil, ⟨[], rfl, List.Perm.refl _⟩⟩
  · simp
  · simp

theorem duplicate (sound : ScanSound str read scan) (reason : String) :
    ScanSound str (read ++ [value])
      { scan with omitted := scan.omitted ++ [historyOmission str value reason] } := by
  rcases sound.whole with ⟨duplicates, omitted, whole⟩
  refine ⟨sound.messages, sound.others, sound.distinct, duplicates ++ [(value, reason)], ?_, ?_⟩
  · rw [omitted, records, records, List.map_append, List.map_singleton]
  · rw [List.map_append, ← List.append_assoc]
    exact whole.append_right [value]

theorem whole_append (sound : ScanSound str read scan) :
    ∃ duplicates, scan.omitted = records str duplicates ∧
      ((scan.normalized ++ [value]) ++ duplicates.map Prod.fst).Perm (read ++ [value]) := by
  rcases sound.whole with ⟨duplicates, omitted, whole⟩
  refine ⟨duplicates, omitted, ?_⟩
  rw [List.append_assoc]
  exact List.perm_middle.trans
    ((whole.cons value).trans (List.perm_append_singleton value read).symm)

theorem distinct_append (sound : ScanSound str read scan)
    (new : historyKey str value ∉ scan.normalized.map (historyKey str)) :
    ((scan.normalized ++ [value]).map (historyKey str)).Nodup := by
  rw [List.map_append, List.map_singleton]
  apply List.nodup_append.mpr
  refine ⟨sound.distinct, List.nodup_singleton _, ?_⟩
  intro key member other added equal
  rw [List.mem_singleton.mp added] at equal
  exact new (equal ▸ member)

/-- A message that is kept is known by its identifier from then on. -/
theorem message (sound : ScanSound str read scan) {messageId : Json} (identity : String)
    (spoken : isMessage value = true) (identified : value.lookup "message_id" = some messageId)
    (new : scan.seenMessageIds.lookup (str messageId) = none) :
    ScanSound str (read ++ [value])
      { scan with
        normalized := scan.normalized ++ [value]
        seenMessageIds := scan.seenMessageIds ++ [(str messageId, identity)] } := by
  have key : historyKey str value = .inl (str messageId) := by
    rw [historyKey, if_pos spoken, JsonMembers.value, identified, Option.getD_some]
  have unseen : str messageId ∉ scan.seenMessageIds.map Prod.fst := by
    intro member
    rcases List.mem_map.mp member with ⟨seen, present, equal⟩
    have known := List.lookup_eq_none_iff.mp new seen present
    rw [equal, bne_self_eq_false] at known
    cases known
  have fresh : historyKey str value ∉ scan.normalized.map (historyKey str) := by
    rw [key]
    exact fun member => unseen ((sound.messages _).mpr member)
  refine ⟨?_, ?_, sound.distinct_append fresh, sound.whole_append⟩
  · intro id
    rw [List.map_append, List.map_append, List.mem_append, List.mem_append, sound.messages id,
      List.map_singleton, List.map_singleton, key, List.mem_singleton, List.mem_singleton,
      Sum.inl.injEq]
  · intro hash
    rw [List.map_append, List.mem_append, sound.others hash, List.map_singleton, key,
      List.mem_singleton]
    simp

theorem other (sound : ScanSound str read scan) (silent : isMessage value = false)
    (new : contextHash (.object value) ∉ scan.seenOtherHashes) :
    ScanSound str (read ++ [value])
      { scan with
        normalized := scan.normalized ++ [value]
        seenOtherHashes := scan.seenOtherHashes ++ [contextHash (.object value)] } := by
  have key : historyKey str value = .inr (contextHash (.object value)) := by
    rw [historyKey, silent]
    rfl
  have fresh : historyKey str value ∉ scan.normalized.map (historyKey str) := by
    rw [key]
    exact fun member => new ((sound.others _).mpr member)
  refine ⟨?_, ?_, sound.distinct_append fresh, sound.whole_append⟩
  · intro id
    rw [List.map_append, List.mem_append, sound.messages id, List.map_singleton, key,
      List.mem_singleton]
    simp
  · intro hash
    rw [List.map_append, List.mem_append, List.mem_append, sound.others hash,
      List.map_singleton, key, List.mem_singleton, List.mem_singleton, Sum.inr.injEq]

theorem scanItem {next : HistoryScan} (sound : ScanSound str read scan)
    (scanned : ContextAssembler.scanItem str scan value = .ok next) :
    ScanSound str (read ++ [value]) next := by
  rw [ContextAssembler.scanItem] at scanned
  split at scanned
  · rename_i spoken
    split at scanned
    · cases scanned
    · rename_i messageId identified
      split at scanned
      · split at scanned
        · cases scanned
        · cases scanned
          exact sound.duplicate _
      · rename_i new
        cases scanned
        exact sound.message _ spoken identified new
  · rename_i silent
    split at scanned
    · cases scanned
      exact sound.duplicate _
    · rename_i new
      cases scanned
      exact sound.other (Bool.eq_false_iff.mpr silent) new

theorem foldlM {next : HistoryScan} (values : List JsonMembers)
    (sound : ScanSound str read scan)
    (scanned : values.foldlM (ContextAssembler.scanItem str) scan = .ok next) :
    ScanSound str (read ++ values) next := by
  induction values generalizing read scan with
  | nil =>
      cases scanned
      rw [List.append_nil]
      exact sound
  | cons value rest induction =>
      rw [List.foldlM_cons] at scanned
      rcases bind_eq_ok_iff.mp scanned with ⟨middle, first, others⟩
      have later := induction (sound.scanItem first) others
      rw [List.append_assoc] at later
      exact later

end ScanSound

/-- What normalisation leaves: the items that are kept are told apart by their keys, and the
rest of the expanded history is recorded. -/
theorem normalizeHistory_spec {values normalized : List JsonMembers} {omitted : List Omission}
    (returned : normalizeHistory str values = .ok (normalized, omitted)) :
    ∃ expanded duplicates, expandHistory str values = .ok expanded ∧
      (normalized.map (historyKey str)).Nodup ∧ omitted = records str duplicates ∧
      (normalized ++ duplicates.map Prod.fst).Perm expanded := by
  rcases bind_eq_ok_iff.mp returned with ⟨expanded, expansion, returned⟩
  rcases bind_eq_ok_iff.mp returned with ⟨scan, scanned, returned⟩
  cases returned
  have sound := ScanSound.empty.foldlM expanded scanned
  rcases sound.whole with ⟨duplicates, recorded, whole⟩
  exact ⟨expanded, duplicates, expansion, sound.distinct, recorded, whole⟩

end

/-! ## The latest pair -/

/-- A message of one of the roles. -/
def SpokenBy (roles : List String) (value : JsonMembers) : Prop :=
  isMessage value = true ∧ ∃ role ∈ roles, value.value "role" = .string role

variable {roles : List String}

theorem SameButMark.spokenBy {left right : JsonMembers} (same : SameButMark left right) :
    SpokenBy roles left ↔ SpokenBy roles right := by
  rw [SpokenBy, SpokenBy, same.isMessage, same.value (by decide)]

/-- The last position below a bound at which one of the roles has spoken. -/
structure LastSpokenAt (roles : List String) (values : List JsonMembers)
    (bound index : Nat) : Prop where
  below : index < bound
  spoken : SpokenBy roles (values.getD index [])
  last : ∀ later, index < later → later < bound → ¬SpokenBy roles (values.getD later [])

theorem inTexts_eq_ok {texts : List String} {value : Json} {present : Bool}
    (returned : inTexts texts value = .ok present) :
    present = true ↔ ∃ text ∈ texts, value = .string text := by
  cases value with
  | string text =>
      cases returned
      simp
  | array items => cases returned
  | object members => cases returned
  | null | bool _ | integer _ | float _ | notANumber | infinity _ =>
      cases returned
      simp

variable {values : List JsonMembers}

theorem lastSpoken_spec {bound : Nat} {result : Option Nat}
    (returned : lastSpoken roles values bound = .ok result) :
    (∀ index ∈ result, index < bound ∧ SpokenBy roles (values.getD index [])) ∧
    ∀ other, other < bound → SpokenBy roles (values.getD other []) →
      ∃ index ∈ result, other ≤ index := by
  induction bound with
  | zero =>
      cases returned
      constructor
      · intro index member
        cases member
      · intro other below
        omega
  | succ bound induction =>
      -- Either the last position answers, or nobody has spoken there.
      have passed (silent : ¬SpokenBy roles (values.getD bound []))
          (rest : lastSpoken roles values bound = .ok result) :
          (∀ index ∈ result, index < bound + 1 ∧ SpokenBy roles (values.getD index [])) ∧
          ∀ other, other < bound + 1 → SpokenBy roles (values.getD other []) →
            ∃ index ∈ result, other ≤ index := by
        rcases induction rest with ⟨found, last⟩
        constructor
        · intro index member
          rcases found index member with ⟨below, spoken⟩
          exact ⟨by omega, spoken⟩
        · intro other below spoken
          have different : other ≠ bound := fun equal => silent (equal ▸ spoken)
          exact last other (by omega) spoken
      rw [lastSpoken] at returned
      split at returned
      · rename_i message
        rcases bind_eq_ok_iff.mp returned with ⟨present, asked, returned⟩
        have answer := inTexts_eq_ok asked
        split at returned
        · rename_i isPresent
          cases returned
          constructor
          · intro index member
            cases Option.mem_some.mp member
            exact ⟨by omega, message, answer.mp isPresent⟩
          · intro other below _
            exact ⟨bound, rfl, by omega⟩
        · rename_i absent
          exact passed (fun spoken => absent (answer.mpr spoken.2)) returned
      · rename_i silent
        exact passed (fun spoken => silent spoken.1) returned

theorem lastSpoken_eq {bound index : Nat} {result : Option Nat}
    (returned : lastSpoken roles values bound = .ok result)
    (last : LastSpokenAt roles values bound index) : result = some index := by
  rcases lastSpoken_spec returned with ⟨found, covers⟩
  rcases covers index last.below last.spoken with ⟨other, member, le⟩
  rcases found other member with ⟨below, spoken⟩
  have equal : index = other := by
    by_contra different
    exact last.last other (by omega) below spoken
  rw [equal]
  exact member

structure PairSpec (values : List JsonMembers) (pairIndices : List Nat) : Prop where
  messages : ∀ index ∈ pairIndices, isMessage (values.getD index []) = true
  response : ∀ response, LastSpokenAt ["assistant", "action"] values values.length response →
    response ∈ pairIndices ∧
      ∀ customer, LastSpokenAt ["customer", "user"] values response customer →
        customer ∈ pairIndices
  customer : (∀ index, index < values.length →
      ¬SpokenBy ["assistant", "action"] (values.getD index [])) →
    ∀ customer, LastSpokenAt ["customer", "user"] values values.length customer →
      customer ∈ pairIndices

variable {pairIndices : List Nat}

theorem latestPairIndices_spec (returned : latestPairIndices values = .ok pairIndices) :
    PairSpec values pairIndices := by
  rcases bind_eq_ok_iff.mp returned with ⟨response, askedResponse, returned⟩
  have spokenResponse := (lastSpoken_spec askedResponse).1
  cases response with
  | none =>
      rcases bind_eq_ok_iff.mp returned with ⟨customer, askedCustomer, returned⟩
      have spokenCustomer := (lastSpoken_spec askedCustomer).1
      constructor
      · intro index member
        cases customer with
        | none =>
            cases returned
            cases member
        | some customerIndex =>
            cases returned
            rw [List.mem_singleton.mp member]
            exact (spokenCustomer customerIndex rfl).2.1
      · intro response last
        cases lastSpoken_eq askedResponse last
      · intro _ customerIndex last
        cases lastSpoken_eq askedCustomer last
        cases returned
        exact List.mem_singleton_self _
  | some responseIndex =>
      have spoken := (spokenResponse responseIndex rfl)
      rcases bind_eq_ok_iff.mp returned with ⟨customer, askedCustomer, returned⟩
      have spokenCustomer := (lastSpoken_spec askedCustomer).1
      have member : responseIndex ∈ pairIndices := by
        cases customer <;> cases returned <;> simp
      constructor
      · intro index member
        cases customer with
        | none =>
            cases returned
            rw [List.mem_singleton.mp member]
            exact spoken.2.1
        | some customerIndex =>
            cases returned
            rcases List.mem_cons.mp member with rfl | member
            · exact (spokenCustomer index rfl).2.1
            · rw [List.mem_singleton.mp member]
              exact spoken.2.1
      · intro response last
        cases lastSpoken_eq askedResponse last
        refine ⟨member, ?_⟩
        intro customerIndex lastCustomer
        cases lastSpoken_eq askedCustomer lastCustomer
        cases returned
        exact List.mem_cons_self
      · intro silent
        exact absurd spoken.2 (silent responseIndex spoken.1)

/-! ## Marks -/

theorem getD_of_mem_zipIdx {item : JsonMembers × Nat} (member : item ∈ values.zipIdx) :
    values.getD item.2 [] = item.1 := by
  rw [List.getD_eq_getElem?_getD, List.mem_zipIdx_iff_getElem?.mp member, Option.getD_some]

theorem mem_zipIdx_getD {index : Nat} (below : index < values.length) :
    (values.getD index [], index) ∈ values.zipIdx := by
  rw [List.mem_zipIdx_iff_getElem?, List.getD_eq_getElem?_getD,
    List.getElem?_eq_getElem below, Option.getD_some]

theorem length_marked (pairIndices : List Nat) (values : List JsonMembers) :
    (marked pairIndices values).length = values.length := by
  rw [marked, List.length_map, List.length_zipIdx]

theorem getD_marked (pairIndices : List Nat) {index : Nat} (below : index < values.length) :
    (marked pairIndices values).getD index [] =
      if index ∈ pairIndices then
        assign (values.getD index []) "retention" (.string "latest_pair")
      else values.getD index [] := by
  rw [List.getD_eq_getElem?_getD, marked, List.getElem?_map, List.getElem?_zipIdx,
    List.getElem?_eq_getElem below, List.getD_eq_getElem?_getD,
    List.getElem?_eq_getElem below, Nat.zero_add]
  rfl

theorem sameButMark_marked (pairIndices : List Nat) (values : List JsonMembers) (index : Nat) :
    SameButMark ((marked pairIndices values).getD index []) (values.getD index []) := by
  by_cases below : index < values.length
  · rw [getD_marked pairIndices below]
    split
    · exact sameButMark_assign _ _
    · exact fun _ _ => rfl
  · have short : (marked pairIndices values).length ≤ index := by
      rw [length_marked]
      omega
    rw [List.getD_eq_getElem?_getD, List.getElem?_eq_none short, List.getD_eq_getElem?_getD,
      List.getElem?_eq_none (by omega)]
    exact fun _ _ => rfl

theorem retention_marked {index : Nat} (member : index ∈ pairIndices)
    (below : index < values.length) :
    ((marked pairIndices values).getD index []).value "retention" = .string "latest_pair" := by
  rw [getD_marked pairIndices below, if_pos member, JsonMembers.value, lookup_assign_self,
    Option.getD_some]

theorem LastSpokenAt.of_marked {bound index : Nat}
    (last : LastSpokenAt roles (marked pairIndices values) bound index) :
    LastSpokenAt roles values bound index where
  below := last.below
  spoken := (sameButMark_marked pairIndices values index).spokenBy.mp last.spoken
  last later after below spoken := last.last later after below
    ((sameButMark_marked pairIndices values later).spokenBy.mpr spoken)

section

variable (str : Json → String)

theorem historyKey_unmarked (value : JsonMembers) :
    historyKey str (unmarked value) = historyKey str value := by
  have same := sameButMark_unmarked value
  rw [historyKey, historyKey, same.isMessage, same.value (by decide)]
  split
  · rfl
  · rename_i silent
    rw [unmarked, if_neg silent]

theorem historyKey_marked {pairIndices : List Nat} {values : List JsonMembers}
    (messages : ∀ index ∈ pairIndices, isMessage (values.getD index []) = true) :
    (marked pairIndices values).map (historyKey str) = values.map (historyKey str) := by
  have keys : ∀ item ∈ values.zipIdx,
      historyKey str (if item.2 ∈ pairIndices then
        assign item.1 "retention" (.string "latest_pair") else item.1) =
      historyKey str item.1 := by
    intro item member
    split
    · rename_i chosen
      have spoken := messages item.2 chosen
      rw [getD_of_mem_zipIdx member] at spoken
      have same := sameButMark_assign item.1 (.string "latest_pair")
      rw [historyKey, historyKey, same.isMessage, same.value (by decide), if_pos spoken,
        if_pos spoken]
    · rfl
  calc (marked pairIndices values).map (historyKey str)
      = values.zipIdx.map (fun item => historyKey str item.1) := by
        rw [marked, List.map_map]
        exact List.map_congr_left keys
    _ = (values.zipIdx.map Prod.fst).map (historyKey str) := by
        rw [List.map_map]
        rfl
    _ = values.map (historyKey str) := by
        rw [List.zipIdx_map_fst]

end

/-! ## The section of the history -/

/-- Whatever is outside the pair is considered once. -/
theorem candidates_perm (pairIndices : List Nat) (items : List (JsonMembers × Nat)) :
    (candidates pairIndices items).Perm (items.filter fun item => item.2 ∉ pairIndices) := by
  rw [candidates]
  generalize (items.filter fun item => item.2 ∉ pairIndices) = others
  have apart : ∀ item : JsonMembers × Nat, isCurrentSummary item.1 = true →
      isMessage item.1 = false := by
    intro item current
    rw [isCurrentSummary, Bool.and_eq_true, decide_eq_true_eq] at current
    rw [isMessage, current.1]
    rfl
  have current : (others.filter fun item => isCurrentSummary item.1) =
      (others.filter fun item => !isMessage item.1).filter fun item =>
        isCurrentSummary item.1 := by
    rw [List.filter_filter]
    apply List.filter_congr
    intro item _
    cases summary : isCurrentSummary item.1 with
    | false => rfl
    | true => rw [apart item summary]; rfl
  have earlier : (others.filter fun item => !isMessage item.1 && !isCurrentSummary item.1) =
      (others.filter fun item => !isMessage item.1).filter fun item =>
        !isCurrentSummary item.1 := by
    rw [List.filter_filter]
    apply List.filter_congr
    intro item _
    exact Bool.and_comm _ _
  have back (keep : JsonMembers × Nat → Bool) :
      (others.reverse.filter keep).Perm (others.filter keep) :=
    (List.reverse_perm others).filter keep
  have silent := List.filter_append_perm (fun item : JsonMembers × Nat => isCurrentSummary item.1)
    (others.filter fun item => !isMessage item.1)
  rw [← current, ← earlier] at silent
  have whole := List.filter_append_perm (fun item : JsonMembers × Nat => isMessage item.1) others
  rw [List.append_assoc]
  refine (List.Perm.append (List.Perm.refl _) ((back _).append (back _))).trans ?_
  refine List.perm_append_comm_assoc _ _ _ |>.trans ?_
  exact (silent.append_left _).trans whole

/-- The pair, the candidates that were taken and those that were passed over are the whole
section. -/
theorem selected_perm {items taken passed : List (JsonMembers × Nat)}
    (distinct : (items.map Prod.snd).Nodup)
    (whole : (taken ++ passed).Perm (candidates pairIndices items)) :
    ((items.filter fun item => item.2 ∈ pairIndices ++ taken.map Prod.snd) ++ passed).Perm
      items := by
  have pairs := List.filter_append_perm
    (fun item : JsonMembers × Nat => decide (item.2 ∈ pairIndices)) items
  have negated : (items.filter fun item => !decide (item.2 ∈ pairIndices)) =
      items.filter fun item => item.2 ∉ pairIndices := by
    apply List.filter_congr
    intro item _
    rw [decide_not]
  rw [negated] at pairs
  have parts : ((items.filter fun item => item.2 ∈ pairIndices) ++ taken ++ passed).Perm
      items := by
    rw [List.append_assoc]
    exact ((whole.trans (candidates_perm pairIndices items)).append_left _).trans pairs
  have same : (items.filter fun item => item.2 ∈ pairIndices ++ taken.map Prod.snd) =
      items.filter fun item => item.2 ∈
        ((items.filter fun item => item.2 ∈ pairIndices) ++ taken).map Prod.snd := by
    apply List.filter_congr
    intro item member
    apply decide_eq_decide.mpr
    rw [List.map_append, List.mem_append, List.mem_append]
    apply or_congr_left
    constructor
    · intro chosen
      exact List.mem_map_of_mem (List.mem_filter.mpr ⟨member, decide_eq_true chosen⟩)
    · intro chosen
      rcases List.mem_map.mp chosen with ⟨other, otherMember, equal⟩
      rw [← equal]
      exact of_decide_eq_true (List.mem_filter.mp otherMember).2
  rw [same]
  exact ((Selection.filter_keys_perm Prod.snd distinct parts).append_right passed).trans parts

section

variable {str : Json → String}

/-- What the section of the history is: the items with their marks are told apart by their
keys, the selected ones and those that are recorded make them up, and the pair is selected
and marked. -/
structure HistoryFitted (str : Json → String) (normalized items selected : List JsonMembers)
    (dropped : List (JsonMembers × String)) : Prop where
  marks : List.Forall₂ SameButMark items normalized
  distinct : (items.map (historyKey str)).Nodup
  part : selected.Sublist items
  whole : (selected ++ dropped.map Prod.fst).Perm items
  response : ∀ response, LastSpokenAt ["assistant", "action"] items items.length response →
    (items.getD response [] ∈ selected ∧
      (items.getD response []).value "retention" = .string "latest_pair") ∧
    ∀ customer, LastSpokenAt ["customer", "user"] items response customer →
      items.getD customer [] ∈ selected ∧
        (items.getD customer []).value "retention" = .string "latest_pair"
  customer : (∀ index, index < items.length →
      ¬SpokenBy ["assistant", "action"] (items.getD index [])) →
    ∀ customer, LastSpokenAt ["customer", "user"] items items.length customer →
      items.getD customer [] ∈ selected ∧
        (items.getD customer []).value "retention" = .string "latest_pair"

theorem HistoryFitted.nil : HistoryFitted str [] [] [] [] where
  marks := .nil
  distinct := List.nodup_nil
  part := List.Sublist.refl _
  whole := List.Perm.refl _
  response _ last := absurd last.below (Nat.not_lt_zero _)
  customer _ _ last := absurd last.below (Nat.not_lt_zero _)

theorem marks_marked (pairIndices : List Nat) (values normalized : List JsonMembers)
    (same : List.Forall₂ SameButMark values normalized) :
    List.Forall₂ SameButMark (marked pairIndices values) normalized := by
  apply List.forall₂_iff_get.mpr
  rcases List.forall₂_iff_get.mp same with ⟨lengths, related⟩
  refine ⟨(length_marked _ _).trans lengths, ?_⟩
  intro index below normalizedBelow
  have valuesBelow : index < values.length := lengths ▸ normalizedBelow
  have step := sameButMark_marked pairIndices values index
  rw [List.getD_eq_getElem?_getD, List.getElem?_eq_getElem below, List.getD_eq_getElem?_getD,
    List.getElem?_eq_getElem valuesBelow] at step
  exact step.trans (related index valuesBelow normalizedBelow)

/-- The items of a history with their marks: those of the latest pair, and those that items
other than messages have brought with them. -/
def markedItems (normalized : List JsonMembers) : Except ContextRaise (List JsonMembers) :=
  (latestPairIndices (normalized.map unmarked)).map fun pairIndices =>
    marked pairIndices (normalized.map unmarked)

def markedHistory (str : Json → String) (values : List JsonMembers) :
    Except ContextRaise (List JsonMembers) := do
  let (normalized, _) ← normalizeHistory str values
  markedItems normalized

theorem fitNormalized_spec {tokenBudget : Int} {normalized selected : List JsonMembers}
    {omitted : List Omission}
    (distinct : (normalized.map (historyKey str)).Nodup)
    (returned : fitNormalized str tokenBudget normalized = .ok (selected, omitted)) :
    ∃ items dropped, markedItems normalized = .ok items ∧ omitted = records str dropped ∧
      HistoryFitted str normalized items selected dropped := by
  rcases bind_eq_ok_iff.mp returned with ⟨pairIndices, asked, returned⟩
  have pair := latestPairIndices_spec asked
  have marks : markedItems normalized =
      .ok (marked pairIndices (normalized.map unmarked)) := by
    rw [markedItems, asked]
    rfl
  generalize valuesEqual : normalized.map unmarked = values at pair returned marks
  generalize itemsEqual : marked pairIndices values = items at returned marks
  dsimp only at returned
  split at returned
  · cases returned
  · have parts := Selection.fit_perm (fun item : JsonMembers × Nat => itemTokens item.1)
      tokenBudget (candidates pairIndices items.zipIdx)
      ((items.zipIdx.filter fun item => item.2 ∈ pairIndices).map
        fun item => itemTokens item.1).sum
    generalize Selection.fit (fun item : JsonMembers × Nat => itemTokens item.1) tokenBudget
      ((items.zipIdx.filter fun item => item.2 ∈ pairIndices).map
        fun item => itemTokens item.1).sum (candidates pairIndices items.zipIdx) = fitted
      at parts returned
    rcases fitted with ⟨taken, passed⟩
    rw [Except.ok.injEq, Prod.mk.injEq] at returned
    rcases returned with ⟨selectedEqual, omittedEqual⟩
    have lengths : items.length = values.length := by
      rw [← itemsEqual, length_marked]
    have indices : (items.zipIdx.map Prod.snd).Nodup := by
      rw [List.zipIdx_map_snd]
      exact List.nodup_range'
    have chosen {index : Nat} (member : index ∈ pairIndices) (below : index < items.length) :
        items.getD index [] ∈ selected ∧
          (items.getD index []).value "retention" = .string "latest_pair" := by
      constructor
      · rw [← selectedEqual]
        apply List.mem_map.mpr
        refine ⟨_, List.mem_filter.mpr ⟨mem_zipIdx_getD below, ?_⟩, rfl⟩
        exact decide_eq_true (List.mem_append_left _ member)
      · rw [← itemsEqual]
        exact retention_marked member (lengths ▸ below)
    have spokenAt {roles : List String} {bound index : Nat}
        (last : LastSpokenAt roles items bound index) : LastSpokenAt roles values bound index := by
      rw [← itemsEqual] at last
      exact last.of_marked
    have keys : (items.map (historyKey str)).Nodup := by
      rw [← itemsEqual, historyKey_marked str pair.messages, ← valuesEqual, List.map_map]
      have same : historyKey str ∘ unmarked = historyKey str :=
        funext fun value => historyKey_unmarked str value
      rw [same]
      exact distinct
    refine ⟨items, passed.map fun item => (item.1, sectionReason item.1), marks, ?_, ?_⟩
    · rw [← omittedEqual, records, List.map_map]
      rfl
    refine
      { marks := ?_, distinct := keys, part := ?_, whole := ?_, response := ?_, customer := ?_ }
    · rw [← itemsEqual]
      apply marks_marked
      rw [← valuesEqual]
      apply List.forall₂_map_left_iff.mpr
      exact List.forall₂_same.mpr fun value _ => sameButMark_unmarked value
    · rw [← selectedEqual]
      have sublist := (List.filter_sublist (p := fun item : JsonMembers × Nat =>
        decide (item.2 ∈ pairIndices ++ taken.map Prod.snd)) (l := items.zipIdx)).map Prod.fst
      rw [List.zipIdx_map_fst] at sublist
      exact sublist
    · have perm := (selected_perm indices parts).map Prod.fst
      rw [List.map_append, List.zipIdx_map_fst, selectedEqual] at perm
      rw [List.map_map]
      exact perm
    · intro response last
      rcases pair.response response (lengths ▸ spokenAt last) with ⟨member, customers⟩
      refine ⟨chosen member last.below, ?_⟩
      intro customer lastCustomer
      exact chosen (customers customer (spokenAt lastCustomer))
        (lastCustomer.below.trans last.below)
    · intro silent customer last
      have none : ∀ index, index < values.length →
          ¬SpokenBy ["assistant", "action"] (values.getD index []) := by
        intro index below spoken
        apply silent index (lengths ▸ below)
        rw [← itemsEqual]
        exact (sameButMark_marked pairIndices values index).spokenBy.mpr spoken
      exact chosen (pair.customer none customer (lengths ▸ spokenAt last)) last.below

/-- Trimming moves items from the selected to the recorded ones, and never the pair. -/
theorem HistoryFitted.trim {normalized items selected history removed : List JsonMembers}
    {dropped : List (JsonMembers × String)} {fits : List JsonMembers → Bool}
    (fitted : HistoryFitted str normalized items selected dropped)
    (trimmed : Selection.Trimmed fits
      (fun value => value.value "retention" ≠ .string "latest_pair") selected history removed) :
    HistoryFitted str normalized items history
      (dropped ++ removed.map fun value => (value, globalReason value)) := by
  have stays {value : JsonMembers} (member : value ∈ selected ∧
      value.value "retention" = .string "latest_pair") :
      value ∈ history ∧ value.value "retention" = .string "latest_pair" := by
    rcases member with ⟨member, protected_⟩
    refine ⟨?_, protected_⟩
    rcases List.mem_append.mp (trimmed.whole.mem_iff.mpr member) with kept | gone
    · exact kept
    · exact absurd protected_ (of_decide_eq_true (trimmed.removable value gone))
  refine
    { marks := fitted.marks, distinct := fitted.distinct, part := trimmed.part.trans fitted.part,
      whole := ?_, response := ?_, customer := ?_ }
  · rw [List.map_append, List.map_map]
    have names : (removed.map (Prod.fst ∘ fun value => (value, globalReason value))) = removed :=
      List.map_id removed
    rw [names]
    have reordered : (history ++ (dropped.map Prod.fst ++ removed)).Perm
        (history ++ removed ++ dropped.map Prod.fst) := by
      rw [List.append_assoc]
      exact List.perm_append_comm.append_left history
    exact reordered.trans ((trimmed.whole.append_right _).trans fitted.whole)
  · intro response last
    rcases fitted.response response last with ⟨member, customers⟩
    exact ⟨stays member, fun customer lastCustomer => stays (customers customer lastCustomer)⟩
  · intro silent customer last
    exact stays (fitted.customer silent customer last)

theorem fitHistory_spec {values selected : List JsonMembers} {tokenBudget : Int}
    {omitted : List Omission}
    (returned : fitHistory str values tokenBudget = .ok (selected, omitted)) :
    ∃ expanded normalized items duplicates dropped,
      expandHistory str values = .ok expanded ∧
      markedHistory str values = .ok items ∧
      (normalized ++ duplicates.map Prod.fst).Perm expanded ∧
      omitted = records str duplicates ++ records str dropped ∧
      HistoryFitted str normalized items selected dropped := by
  rcases bind_eq_ok_iff.mp returned with ⟨⟨normalized, omittedDuplicates⟩, normalization, returned⟩
  rcases normalizeHistory_spec str normalization with
    ⟨expanded, duplicates, expansion, distinct, recorded, whole⟩
  dsimp only at returned
  split at returned
  · rename_i empty
    cases returned
    subst empty
    refine ⟨expanded, [], [], duplicates, [], expansion, ?_, whole, ?_, .nil⟩
    · simp only [markedHistory, normalization, bind, Except.bind]
      rfl
    · rw [recorded, records, records, List.map_nil, List.append_nil]
  · rcases bind_eq_ok_iff.mp returned with ⟨⟨taken, passed⟩, fitting, returned⟩
    cases returned
    rcases fitNormalized_spec distinct fitting with
      ⟨items, dropped, marks, droppedRecorded, fitted⟩
    refine ⟨expanded, normalized, items, duplicates, dropped, expansion, ?_, whole, ?_, fitted⟩
    · simp only [markedHistory, normalization, bind, Except.bind]
      exact marks
    · rw [recorded, droppedRecorded]

end

/-! ## The other sections -/

def itemText (value : JsonMembers) : List Char :=
  JsonText.encode (.object value)

def itemHash (value : JsonMembers) : String :=
  contextHash (.object value)

/-- No two of the values have different texts and one hash. -/
def CollisionFree (values : List JsonMembers) : Prop :=
  ∀ left ∈ values, ∀ right ∈ values, itemHash left = itemHash right →
    itemText left = itemText right

theorem itemHash_congr {left right : JsonMembers} (same : itemText left = itemText right) :
    itemHash left = itemHash right := by
  rw [itemText] at same
  rw [itemHash, itemHash, contextHash, contextHash, same, itemText]

/-- The first occurrence of each value, in order. -/
theorem fitList_spec {tokenBudget : Int} {sectionName : String} (values : List JsonMembers)
    {used : Nat} {seen : List String} {selected table : List JsonMembers}
    {omitted : List Omission} (known : ∀ hash, hash ∈ seen ↔ hash ∈ table.map itemHash)
    (returned : fitList tokenBudget sectionName true used seen values =
      .ok (selected, omitted)) :
    values.foldl (Table.insertNew itemHash) table = table ++ selected ∧
      ∀ omission ∈ omitted, omission = [("section", sectionName), ("reason", "duplicate")] := by
  induction values generalizing used seen selected table omitted with
  | nil =>
      cases returned
      refine ⟨(List.append_nil table).symm, ?_⟩
      intro omission member
      cases member
  | cons value rest induction =>
      rw [List.foldl_cons, Table.insertNew_eq]
      rw [fitList] at returned
      split at returned
      · rename_i taken
        rcases bind_eq_ok_iff.mp returned with ⟨⟨others, recorded⟩, later, returned⟩
        cases returned
        rcases induction known later with ⟨equal, duplicates⟩
        have present : itemHash value ∈ table.map itemHash := (known _).mp taken
        rw [if_pos present]
        refine ⟨equal, ?_⟩
        intro omission member
        rcases List.mem_cons.mp member with rfl | member
        · rfl
        · exact duplicates omission member
      · rename_i new
        split at returned
        · cases returned
        · rcases bind_eq_ok_iff.mp returned with ⟨⟨others, recorded⟩, later, returned⟩
          cases returned
          have absent : itemHash value ∉ table.map itemHash := fun member =>
            new ((known _).mpr member)
          rw [if_neg absent]
          have extended : ∀ hash, hash ∈ contextHash (.object value) :: seen ↔
              hash ∈ (table ++ [value]).map itemHash := by
            intro hash
            rw [List.mem_cons, known hash, List.map_append, List.mem_append, List.map_singleton,
              List.mem_singleton, or_comm]
            rfl
          rcases induction extended later with ⟨equal, duplicates⟩
          rw [equal, List.append_assoc]
          exact ⟨rfl, duplicates⟩

theorem firsts_itemHash (free : CollisionFree values) :
    Table.firsts itemHash values = Table.firsts itemText values := by
  apply Table.firsts_congr
  intro left leftMember right rightMember
  exact ⟨free left leftMember right rightMember, itemHash_congr⟩

/-! ## The packet -/

/-- The packet that a context is the text of. -/
structure PacketOf (request : ContextRequest) (observations evidence history : List JsonMembers)
    (assembled : AssembledContext) (members : JsonMembers) : Prop where
  content : assembled.content = JsonText.encode (.object members)
  userGoal : members.lookup "user_goal" = some (.string request.userGoal)
  trustedTaskState :
    members.lookup "trusted_task_state" = some (.object request.trustedTaskState)
  latestObservations : members.lookup "latest_observations" = some (listed observations)
  retrievedEvidence : members.lookup "retrieved_evidence" = some (listed evidence)
  relevantHistory : members.lookup "relevant_history" = some (listed history)

/-- How the history of a request is accounted for. Its expansion consists of the normalised
items and their duplicates; the packet has a part of the normalised items with the latest pair,
and all the rest is recorded. -/
structure HistoryAccounted (str : Json → String) (history : List JsonMembers)
    (omitted : List Omission) (expanded items selected : List JsonMembers) : Prop where
  expansion : expandHistory str history = .ok expanded
  part : selected.Sublist items
  accounted : ∃ (normalized : List JsonMembers) (duplicates dropped : List (JsonMembers × String))
    (others : List Omission),
    List.Forall₂ SameButMark items normalized ∧
    (normalized ++ duplicates.map Prod.fst).Perm expanded ∧
    (selected ++ dropped.map Prod.fst).Perm items ∧
    ((selected ++ dropped.map Prod.fst).map (historyKey str)).Nodup ∧
    (∀ omission ∈ others, omission.lookup "section" ≠ some "relevant_history") ∧
    omitted = others ++ records str duplicates ++ records str dropped
  recorded : ∀ item ∈ expanded, (∃ kept ∈ selected, SameButMark kept item) ∨
    ∃ reason, historyOmission str item reason ∈ omitted
  response : ∀ response, LastSpokenAt ["assistant", "action"] items items.length response →
    items.getD response [] ∈ selected ∧
      ∀ customer, LastSpokenAt ["customer", "user"] items response customer →
        items.getD customer [] ∈ selected
  customer : (∀ index, index < items.length →
      ¬SpokenBy ["assistant", "action"] (items.getD index [])) →
    ∀ customer, LastSpokenAt ["customer", "user"] items items.length customer →
      items.getD customer [] ∈ selected

theorem mem_records (str : Json → String) {dropped : List (JsonMembers × String)}
    {item : JsonMembers} (member : item ∈ dropped.map Prod.fst) :
    ∃ reason, historyOmission str item reason ∈ records str dropped := by
  rcases List.mem_map.mp member with ⟨pair, pairMember, rfl⟩
  exact ⟨pair.2, List.mem_map.mpr ⟨pair, pairMember, rfl⟩⟩

theorem HistoryFitted.accounted {str : Json → String}
    {history expanded normalized items selected : List JsonMembers}
    {duplicates dropped : List (JsonMembers × String)} {others : List Omission}
    (fitted : HistoryFitted str normalized items selected dropped)
    (expansion : expandHistory str history = .ok expanded)
    (whole : (normalized ++ duplicates.map Prod.fst).Perm expanded)
    (foreign : ∀ omission ∈ others, omission.lookup "section" ≠ some "relevant_history") :
    HistoryAccounted str history (others ++ records str duplicates ++ records str dropped)
      expanded items selected where
  expansion := expansion
  part := fitted.part
  accounted := by
    refine ⟨normalized, duplicates, dropped, others, fitted.marks, whole, fitted.whole, ?_,
      foreign, rfl⟩
    exact (fitted.whole.map (historyKey str)).nodup_iff.mpr fitted.distinct
  recorded := by
    intro item member
    rcases List.mem_append.mp (whole.mem_iff.mpr member) with kept | duplicate
    · -- The item with its mark is either selected or dropped.
      rcases List.mem_iff_get.mp kept with ⟨index, rfl⟩
      rcases List.forall₂_iff_get.mp fitted.marks with ⟨lengths, related⟩
      have below : index.val < items.length := by
        rw [lengths]
        exact index.isLt
      have same := related index.val below index.isLt
      have present : items.get ⟨index.val, below⟩ ∈ items := List.get_mem _ _
      rcases List.mem_append.mp (fitted.whole.mem_iff.mpr present) with chosen | gone
      · exact Or.inl ⟨_, chosen, same⟩
      · right
        rcases mem_records str gone with ⟨reason, recorded⟩
        refine ⟨reason, List.mem_append_right _ ?_⟩
        rw [← same.historyOmission str reason]
        exact recorded
    · right
      rcases mem_records str duplicate with ⟨reason, recorded⟩
      exact ⟨reason, List.mem_append_left _ (List.mem_append_right _ recorded)⟩
  response := by
    intro response last
    rcases fitted.response response last with ⟨member, customers⟩
    exact ⟨member.1, fun customer lastCustomer => (customers customer lastCustomer).1⟩
  customer := by
    intro silent customer last
    exact (fitted.customer silent customer last).1

/-- An assembled context is within its budget, has the goal, the state, the distinct
observations and the distinct evidence, and accounts for the whole history. -/
theorem assemble_accounts {str : Json → String} {budget : ContextBudget}
    {request : ContextRequest} {assembled : AssembledContext}
    (returned : assemble str budget request = .ok assembled) :
    (assembled.manifest.totalInputTokens : Int) ≤ budget.maxInputTokens - budget.outputReserve ∧
    ∃ observations evidence expanded items history members,
      PacketOf request observations evidence history assembled members ∧
      observations = Table.firsts itemHash request.latestObservations ∧
      (CollisionFree request.latestObservations →
        observations = Table.firsts itemText request.latestObservations) ∧
      evidence = Table.firsts itemHash request.evidence ∧
      (CollisionFree request.evidence → evidence = Table.firsts itemText request.evidence) ∧
      HistoryAccounted str request.history assembled.manifest.omitted expanded items history := by
  rw [assemble] at returned
  dsimp only at returned
  split at returned
  · cases returned
  rcases bind_eq_ok_iff.mp returned with ⟨⟨observations, omittedObservations⟩, first, returned⟩
  rcases bind_eq_ok_iff.mp returned with ⟨⟨evidence, omittedEvidence⟩, second, returned⟩
  rcases bind_eq_ok_iff.mp returned with ⟨⟨fitted, omittedHistory⟩, third, returned⟩
  dsimp only at returned
  split at returned
  · cases returned
  rename_i history removed trimmed
  split at returned
  · cases returned
  cases returned
  have empty : ∀ hash, hash ∈ ([] : List String) ↔ hash ∈ ([] : List JsonMembers).map itemHash :=
    fun _ => Iff.rfl
  rcases fitList_spec _ empty first with ⟨observationsEqual, observationDuplicates⟩
  rcases fitList_spec _ empty second with ⟨evidenceEqual, evidenceDuplicates⟩
  have observationsFirsts : observations = Table.firsts itemHash request.latestObservations :=
    observationsEqual.symm
  have evidenceFirsts : evidence = Table.firsts itemHash request.evidence := evidenceEqual.symm
  rcases fitHistory_spec third with
    ⟨expanded, normalized, items, duplicates, dropped, expansion, _, whole, recorded, section_⟩
  have rest := Selection.trim_spec trimmed
  refine ⟨?_, observations, evidence, expanded, items, history, _, ⟨rfl, rfl, rfl, rfl, rfl, rfl⟩,
    observationsFirsts, ?_, evidenceFirsts, ?_, ?_⟩
  · have fits := of_decide_eq_true rest.fits
    push_cast
    omega
  · intro free
    rw [observationsFirsts, firsts_itemHash free]
  · intro free
    rw [evidenceFirsts, firsts_itemHash free]
  · have foreign : ∀ omission ∈ omittedObservations ++ omittedEvidence,
        omission.lookup "section" ≠ some "relevant_history" := by
      intro omission member
      rcases List.mem_append.mp member with member | member
      · rw [observationDuplicates omission member]
        decide
      · rw [evidenceDuplicates omission member]
        decide
    have account := (section_.trim rest).accounted expansion whole foreign
    have removals : records str (dropped ++ removed.map fun value => (value, globalReason value)) =
        records str dropped ++
          removed.map fun value => historyOmission str value (globalReason value) := by
      rw [records, List.map_append, List.map_map]
      rfl
    rw [removals, ← List.append_assoc, List.append_assoc _ (records str duplicates),
      ← recorded] at account
    exact account

/-! A legacy wrapper with two messages, of which the history repeats one and has a third. -/

def sampleMessage (id role content : String) : JsonMembers :=
  [("history_kind", .string "message"), ("message_id", .string id), ("role", .string role),
    ("content", .string content)]

def sampleContext : ContextRequest where
  runId := "run"
  stepIndex := 1
  userGoal := "refund"
  trustedTaskState := [("ticket_id", .string "ticket")]
  tools := []
  latestObservations := [[("observation_id", .string "a")], [("observation_id", .string "a")]]
  evidence := []
  history :=
    [sampleMessage "m0" "customer" "an older question",
      [("current_conversation_recent_messages",
        .array [.object (sampleMessage "m1" "customer" "where"),
          .object (sampleMessage "m2" "assistant" "here")])],
      sampleMessage "m1" "customer" "where"]
  remainingBudget := [("tool_rounds", 2)]

def sampleBudget : ContextBudget where
  historyTokens := 110
  version := "context"

theorem assemble_sampleContext :
    (assemble Json.toStr sampleBudget sampleContext).isOk = true := by
  decide +kernel

theorem assemble_accounts_sample :
    ∃ assembled, assemble Json.toStr sampleBudget sampleContext = .ok assembled ∧
      (assembled.manifest.totalInputTokens : Int) ≤ 6800 := by
  cases returned : assemble Json.toStr sampleBudget sampleContext with
  | error raised =>
      have ran := assemble_sampleContext
      rw [returned] at ran
      cases ran
  | ok assembled => exact ⟨assembled, rfl, (assemble_accounts returned).1⟩

end ContextAssembler

end SupportGuard
