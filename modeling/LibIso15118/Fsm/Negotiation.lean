import LibIso15118.Fsm.Run

set_option autoImplicit false

namespace LibIso15118

open Datatypes Shared

section Entries

variable (custom : Option StdString)

/-- The namespace is one of the two of the standard or the one that is configured. -/
def Supported (entry : SupportedAppProtocol) : Prop :=
  entry.protocolNamespace = iso20DcNamespace ∨ entry.protocolNamespace = iso20AcNamespace ∨
    custom = some entry.protocolNamespace

/-- What the comparisons accept: an empty namespace too when none is configured. -/
def Accepted (entry : SupportedAppProtocol) : Prop := supportsNamespace custom entry.protocolNamespace = true

instance (entry : SupportedAppProtocol) : Decidable (Accepted custom entry) :=
  inferInstanceAs (Decidable (_ = true))

def Minimal (entries : List SupportedAppProtocol) (entry : SupportedAppProtocol) : Prop :=
  entry ∈ entries ∧ Supported custom entry ∧
    ∀ other ∈ entries, Supported custom other → entry.priority ≤ other.priority

/-- The last accepted entry of the least priority. -/
def Chosen (entries : List SupportedAppProtocol) (entry : SupportedAppProtocol) : Prop :=
  (entries.filter fun other => Accepted custom other ∧ other.priority = entry.priority).getLast? = some entry ∧
    ∀ other ∈ entries, Accepted custom other → entry.priority ≤ other.priority

def announcement (entry : SupportedAppProtocol) : Option StdString :=
  if entry.protocolNamespace = iso20DcNamespace then some "ISO15118-20:DC"
  else if entry.protocolNamespace = iso20AcNamespace then some "ISO15118-20:AC"
  else if custom = some entry.protocolNamespace then custom
  else none

theorem Supported.accepted {entry : SupportedAppProtocol} (supported : Supported custom entry) :
    Accepted custom entry := by
  rcases supported with dc | ac | own
  · simp [Accepted, supportsNamespace, dc]
  · simp [Accepted, supportsNamespace, ac]
  · simp [Accepted, supportsNamespace, own]

theorem announcement_isSome_iff (entry : SupportedAppProtocol) :
    (announcement custom entry).isSome = true ↔ Supported custom entry := by
  unfold announcement Supported
  split
  · simp [*]
  · split
    · simp [*]
    · split <;> simp [*]

end Entries

section Map

variable (custom : Option StdString)

theorem evSupportedProtocols_apply (entries : List SupportedAppProtocol) (key : UInt8) :
    evSupportedProtocols custom entries key =
      ((entries.filter fun other => Accepted custom other ∧ other.priority = key).getLast?).map (·.schemaId) := by
  -- A priority is mapped to the id of the last accepted entry that has it.
  induction entries using List.reverseRecOn with
  | nil => rfl
  | append_singleton entries entry hyp =>
      have fold : evSupportedProtocols custom (entries ++ [entry]) =
          if supportsNamespace custom entry.protocolNamespace then
            (evSupportedProtocols custom entries).insert entry.priority entry.schemaId
          else evSupportedProtocols custom entries := by
        rw [evSupportedProtocols, List.foldl_concat]
        rfl
      rw [fold, List.filter_append]
      by_cases accepted : supportsNamespace custom entry.protocolNamespace = true
      · by_cases same : entry.priority = key
        · simp [accepted, Accepted, same, Table.insert]
        · simp [accepted, Accepted, same, Table.insert, hyp, Ne.symm same]
      · simp [accepted, Accepted, hyp]

theorem evSupportedProtocols_isSome {entries : List SupportedAppProtocol} {entry : SupportedAppProtocol}
    (member : entry ∈ entries) (accepted : Accepted custom entry) :
    evSupportedProtocols custom entries entry.priority ≠ none := by
  rw [evSupportedProtocols_apply]
  have inside : entry ∈ entries.filter fun other => Accepted custom other ∧ other.priority = entry.priority :=
    List.mem_filter.mpr ⟨member, by simp [accepted]⟩
  simpa using List.ne_nil_of_mem inside

theorem findSome?_range_eq_some_iff {α : Type} (f : Nat → Option α) (count : Nat) (value : α) :
    (List.range count).findSome? f = some value ↔
      ∃ index < count, f index = some value ∧ ∀ other < index, f other = none := by
  induction count with
  | zero => simp
  | succ count hyp =>
      rw [List.range_succ, List.findSome?_append]
      cases earlier : (List.range count).findSome? f with
      | some found =>
          rw [Option.some_or, ← earlier, hyp]
          constructor
          · rintro ⟨index, small, first⟩
            exact ⟨index, by omega, first⟩
          · rintro ⟨index, small, found', before⟩
            refine ⟨index, ?_, found', before⟩
            -- what has been found is before the last index
            by_contra last
            obtain rfl : index = count := by omega
            have unfound := List.findSome?_eq_none_iff.mpr fun other member => before other (List.mem_range.mp member)
            rw [earlier] at unfound
            cases unfound
      | none =>
          have before (other : Nat) (small : other < count) : f other = none :=
            List.findSome?_eq_none_iff.mp earlier other (List.mem_range.mpr small)
          rw [Option.none_or]
          constructor
          · intro found
            exact ⟨count, by omega, by simpa using found, before⟩
          · rintro ⟨index, small, found, -⟩
            have last : index = count := by
              by_contra different
              rw [before index (by omega)] at found
              cases found
            subst last
            simpa using found

theorem first_eq_some_iff (table : Table UInt8 UInt8) (value : UInt8) :
    table.first = some value ↔ ∃ key, table key = some value ∧ ∀ other < key, table other = none := by
  rw [Table.first, findSome?_range_eq_some_iff]
  constructor
  · rintro ⟨index, small, found, earlier⟩
    refine ⟨UInt8.ofNat index, found, fun other smaller => ?_⟩
    rw [UInt8.lt_iff_toNat_lt, UInt8.toNat_ofNat_of_lt' small] at smaller
    simpa using earlier other.toNat smaller
  · rintro ⟨key, found, earlier⟩
    refine ⟨key.toNat, key.toNat_lt, by simpa using found, fun index below => ?_⟩
    apply earlier
    rw [UInt8.lt_iff_toNat_lt, UInt8.toNat_ofNat_of_lt' (below.trans key.toNat_lt)]
    exact below

theorem first_evSupportedProtocols_iff (entries : List SupportedAppProtocol) (schemaId : UInt8) :
    (evSupportedProtocols custom entries).first = some schemaId ↔
      ∃ entry, Chosen custom entries entry ∧ entry.schemaId = schemaId := by
  rw [first_eq_some_iff]
  constructor
  · rintro ⟨key, found, earlier⟩
    rw [evSupportedProtocols_apply] at found
    obtain ⟨entry, last, rfl⟩ := Option.map_eq_some_iff.mp found
    have listed := (List.mem_filter.mp (List.mem_of_getLast? last)).2
    obtain ⟨accepted, rfl⟩ := of_decide_eq_true listed
    refine ⟨entry, ⟨last, fun other member accepted' => ?_⟩, rfl⟩
    by_contra smaller
    exact evSupportedProtocols_isSome custom member accepted' (earlier _ (UInt8.not_le.mp smaller))
  · rintro ⟨entry, ⟨last, least⟩, rfl⟩
    refine ⟨entry.priority, by rw [evSupportedProtocols_apply, last]; rfl, fun key smaller => ?_⟩
    rw [evSupportedProtocols_apply]
    have none : (entries.filter fun other => Accepted custom other ∧ other.priority = key) = [] := by
      rw [List.filter_eq_nil_iff]
      intro other member listed
      obtain ⟨accepted, rfl⟩ := of_decide_eq_true listed
      exact absurd smaller (UInt8.not_lt.mpr (least other member accepted))
    rw [none]
    rfl

theorem first_evSupportedProtocols_eq_none {entries : List SupportedAppProtocol}
    (none : (evSupportedProtocols custom entries).first = none) :
    ∀ entry ∈ entries, ¬Accepted custom entry := by
  intro entry member accepted
  have found := evSupportedProtocols_isSome custom member accepted
  rw [Table.first, List.findSome?_eq_none_iff] at none
  exact found (by simpa using none entry.priority.toNat (List.mem_range.mpr entry.priority.toNat_lt))

end Map

section Select

variable (custom : Option StdString) (schemaId : UInt8)

def selectedInfo (entries : List SupportedAppProtocol) (info : EvInformation) : EvInformation :=
  { info with
    selectedAppProtocol :=
      (entries.filter (·.schemaId = schemaId)).getLast?.or info.selectedAppProtocol }

def announcements (entries : List SupportedAppProtocol) : List Output :=
  (entries.filter (·.schemaId = schemaId)).filterMap fun entry =>
    (announcement custom entry).map fun name => .feedback (.selectedProtocol name)

/-- No entry with the id is accepted without being supported. -/
def Harmless (entries : List SupportedAppProtocol) : Prop :=
  ∀ entry ∈ entries, entry.schemaId = schemaId → Accepted custom entry → Supported custom entry

def announce (entry : SupportedAppProtocol) : Feed Unit :=
  if entry.protocolNamespace = iso20DcNamespace then Feed.feedback (.selectedProtocol "ISO15118-20:DC")
  else if entry.protocolNamespace = iso20AcNamespace then Feed.feedback (.selectedProtocol "ISO15118-20:AC")
  else if entry.protocolNamespace = custom.getD "" then
    match custom with
    | none => Act.throw .badOptionalAccess
    | some name => Feed.feedback (.selectedProtocol name)
  else return ()

theorem select_asked {entry : SupportedAppProtocol} (asked : entry.schemaId = schemaId) (ctx : Context) :
    State.SupportedAppProtocol.select (some schemaId) entry ctx =
      announce ctx.sessionConfig.customProtocol entry
        { ctx with evInfo := { ctx.evInfo with selectedAppProtocol := some entry } } := by
  rw [State.SupportedAppProtocol.select, if_pos (congrArg some asked), Act.get_bind, Act.modify_bind]
  rfl

theorem announce_supported {entry : SupportedAppProtocol} (harmless : Accepted custom entry → Supported custom entry)
    (ctx : Context) :
    announce custom entry ctx =
      ⟨.ok (), ctx, (announcement custom entry).toList.map fun name => .feedback (.selectedProtocol name)⟩ := by
  unfold announce announcement
  by_cases dc : entry.protocolNamespace = iso20DcNamespace
  · rw [if_pos dc, if_pos dc]
    rfl
  · rw [if_neg dc, if_neg dc]
    by_cases ac : entry.protocolNamespace = iso20AcNamespace
    · rw [if_pos ac, if_pos ac]
      rfl
    · rw [if_neg ac, if_neg ac]
      cases custom with
      | none =>
          have named : entry.protocolNamespace ≠ "" := by
            simpa [Accepted, Supported, supportsNamespace, dc, ac] using harmless
          rw [if_neg (by simpa using named), if_neg (by simp)]
          rfl
      | some name =>
          by_cases same : entry.protocolNamespace = name
          · rw [if_pos (by simpa using same), if_pos (by rw [same])]
            rfl
          · rw [if_neg (by simpa using same), if_neg (by simpa using Ne.symm same)]
            rfl

theorem announce_unsupported {entry : SupportedAppProtocol} (accepted : Accepted custom entry)
    (unsupported : ¬Supported custom entry) (ctx : Context) :
    (announce custom entry ctx).result = .error .badOptionalAccess := by
  simp only [Supported, not_or] at unsupported
  obtain ⟨dc, ac, own⟩ := unsupported
  unfold announce
  rw [if_neg dc, if_neg ac]
  cases custom with
  | none =>
      have named : entry.protocolNamespace = "" := by
        simpa [Accepted, supportsNamespace, dc, ac] using accepted
      rw [if_pos (by simpa using named)]
      rfl
  | some name =>
      have same : entry.protocolNamespace = name := by
        simpa [Accepted, supportsNamespace, dc, ac] using accepted
      exact absurd (congrArg some same.symm) own

theorem select_harmless (entry : SupportedAppProtocol) (ctx : Context)
    (harmless : entry.schemaId = schemaId → Accepted ctx.sessionConfig.customProtocol entry →
      Supported ctx.sessionConfig.customProtocol entry) :
    State.SupportedAppProtocol.select (some schemaId) entry ctx =
      ⟨.ok (), { ctx with evInfo := selectedInfo schemaId [entry] ctx.evInfo },
        announcements ctx.sessionConfig.customProtocol schemaId [entry]⟩ := by
  by_cases asked : entry.schemaId = schemaId
  · rw [select_asked schemaId asked, announce_supported _ (harmless asked)]
    cases name : announcement ctx.sessionConfig.customProtocol entry <;>
      simp [selectedInfo, announcements, asked, name]
  · simp [State.SupportedAppProtocol.select, asked, selectedInfo, announcements]

theorem selectAll_harmless (entries : List SupportedAppProtocol) (ctx : Context)
    (harmless : Harmless ctx.sessionConfig.customProtocol schemaId entries) :
    State.SupportedAppProtocol.selectAll (some schemaId) entries ctx =
      ⟨.ok (), { ctx with evInfo := selectedInfo schemaId entries ctx.evInfo },
        announcements ctx.sessionConfig.customProtocol schemaId entries⟩ := by
  induction entries generalizing ctx with
  | nil => simp [State.SupportedAppProtocol.selectAll, selectedInfo, announcements]
  | cons entry rest hyp =>
      have here := select_harmless schemaId entry ctx (harmless entry (List.mem_cons_self ..))
      have there := hyp { ctx with evInfo := selectedInfo schemaId [entry] ctx.evInfo }
        fun other member => harmless other (List.mem_cons_of_mem _ member)
      rw [State.SupportedAppProtocol.selectAll, Act.bind_apply, here]
      dsimp only
      rw [there]
      by_cases asked : entry.schemaId = schemaId
      · cases name : announcement ctx.sessionConfig.customProtocol entry <;>
          simp [selectedInfo, announcements, asked, name, List.getLast?_cons]
      · simp [selectedInfo, announcements, asked]

theorem selectAll_harmful (entries : List SupportedAppProtocol) (ctx : Context)
    (harmful : ¬Harmless ctx.sessionConfig.customProtocol schemaId entries) :
    (State.SupportedAppProtocol.selectAll (some schemaId) entries ctx).result = .error .badOptionalAccess := by
  -- An entry that is accepted without being supported makes the loop throw.
  induction entries generalizing ctx with
  | nil => exact absurd (by simp [Harmless]) harmful
  | cons entry rest hyp =>
      rw [State.SupportedAppProtocol.selectAll, Act.bind_apply]
      by_cases harmless : entry.schemaId = schemaId → Accepted ctx.sessionConfig.customProtocol entry →
          Supported ctx.sessionConfig.customProtocol entry
      · rw [select_harmless schemaId entry ctx harmless]
        apply hyp
        intro later
        refine harmful fun other member => ?_
        rcases List.mem_cons.mp member with rfl | inside
        · exact harmless
        · exact later other inside
      · simp only [Classical.not_imp] at harmless
        obtain ⟨asked, accepted, unsupported⟩ := harmless
        rw [select_asked schemaId asked]
        simp only [announce_unsupported _ accepted unsupported]

end Select

section Negotiates

variable (custom : Option StdString)

/-- What the negotiation is to do with the entries of a request. -/
structure Negotiates (entries : List SupportedAppProtocol) (result : Except Exn Result) (ctx' : Context)
    (log : List Output) : Prop where
  returns : ∃ next, result = .ok next
  answered : ∃ res, responses log = [.supportedAppProtocol res] ∧
    (res.responseCode = .okSuccessfulNegotiation ↔ ∃ entry ∈ entries, Supported custom entry) ∧
    (res.responseCode = .okSuccessfulNegotiation → ∃ entry, Minimal custom entries entry ∧
      res.schemaId = some entry.schemaId)
  moved : result = .ok (.createState .sessionSetup) ↔ ∃ entry ∈ entries, Supported custom entry
  selected : (∃ entry ∈ entries, Supported custom entry) →
    ∃ entry, ctx'.evInfo.selectedAppProtocol = some entry ∧ Minimal custom entries entry
  announced : (∃ entry ∈ entries, Supported custom entry) → ∃ name, .feedback (.selectedProtocol name) ∈ log
  named : ∀ name, .feedback (.selectedProtocol name) ∈ log →
    ∃ entry, Minimal custom entries entry ∧ announcement custom entry = some name

/-- The entries that share the id of the chosen one do not mislead: those that are accepted are supported and
have the name of a minimal one, and the last of them is minimal. -/
def Clear (entries : List SupportedAppProtocol) : Prop :=
  ∀ chosen, Chosen custom entries chosen →
    (∀ entry ∈ entries, entry.schemaId = chosen.schemaId → Accepted custom entry → Supported custom entry ∧
      ∃ other, Minimal custom entries other ∧ announcement custom other = announcement custom entry) ∧
    ∀ last, (entries.filter (·.schemaId = chosen.schemaId)).getLast? = some last → Minimal custom entries last

theorem Chosen.member {entries : List SupportedAppProtocol} {chosen : SupportedAppProtocol}
    (is : Chosen custom entries chosen) : chosen ∈ entries ∧ Accepted custom chosen := by
  have listed := List.mem_filter.mp (List.mem_of_getLast? is.1)
  exact ⟨listed.1, (of_decide_eq_true listed.2).1⟩

theorem mem_announcements (schemaId : UInt8) (entries : List SupportedAppProtocol) (name : StdString) :
    .feedback (.selectedProtocol name) ∈ announcements custom schemaId entries ↔
      ∃ entry ∈ entries, entry.schemaId = schemaId ∧ announcement custom entry = some name := by
  simp [announcements, and_assoc]

theorem responses_announcements (schemaId : UInt8) (entries : List SupportedAppProtocol) :
    responses (announcements custom schemaId entries) = [] := by
  rw [List.eq_nil_iff_forall_not_mem]
  intro out member
  have sent := (mem_responses _).mp member
  simp [announcements] at sent

theorem Chosen.unique {entries : List SupportedAppProtocol} {chosen other : SupportedAppProtocol}
    (is : Chosen custom entries chosen) (isOther : Chosen custom entries other) : other = chosen := by
  have lower := is.2 other isOther.member.1 isOther.member.2
  have upper := isOther.2 chosen is.member.1 is.member.2
  have same := UInt8.le_antisymm upper lower
  have last := isOther.1
  rw [same, is.1] at last
  exact (Option.some.inj last).symm

theorem negotiates_iff_clear {entries : List SupportedAppProtocol} {chosen : SupportedAppProtocol}
    (is : Chosen custom entries chosen) (harmless : Harmless custom chosen.schemaId entries) {ctx' : Context}
    {info : EvInformation} (selects : ctx'.evInfo = selectedInfo chosen.schemaId entries info) :
    Negotiates custom entries (.ok (.createState .sessionSetup)) ctx'
        (.respond (.supportedAppProtocol ⟨.okSuccessfulNegotiation, some chosen.schemaId⟩) ::
          announcements custom chosen.schemaId entries) ↔
      Clear custom entries := by
  have supports := harmless chosen is.member.1 rfl is.member.2
  have supported : ∃ entry ∈ entries, Supported custom entry := ⟨chosen, is.member.1, supports⟩
  have shares : chosen ∈ entries.filter (·.schemaId = chosen.schemaId) :=
    List.mem_filter.mpr ⟨is.member.1, by simp⟩
  obtain ⟨last, ends⟩ : ∃ last, (entries.filter (·.schemaId = chosen.schemaId)).getLast? = some last :=
    ⟨_, List.getLast?_eq_some_getLast (List.ne_nil_of_mem shares)⟩
  have selected : ctx'.evInfo.selectedAppProtocol = some last := by simp [selects, selectedInfo, ends]
  have logged (name : StdString) :
      .feedback (.selectedProtocol name) ∈
          Output.respond (.supportedAppProtocol ⟨.okSuccessfulNegotiation, some chosen.schemaId⟩) ::
            announcements custom chosen.schemaId entries ↔
        ∃ entry ∈ entries, entry.schemaId = chosen.schemaId ∧ announcement custom entry = some name := by
    rw [List.mem_cons, mem_announcements]
    simp
  constructor
  · intro negotiates other isOther
    obtain rfl := is.unique _ isOther
    refine ⟨fun entry member asked accepts => ?_, fun entry lastEntry => ?_⟩
    · have supports := harmless entry member asked accepts
      obtain ⟨name, tells⟩ := Option.isSome_iff_exists.mp ((announcement_isSome_iff custom entry).mpr supports)
      obtain ⟨minimal, isMinimal, same⟩ := negotiates.named name ((logged name).mpr ⟨entry, member, asked, tells⟩)
      exact ⟨supports, minimal, isMinimal, same.trans tells.symm⟩
    · obtain ⟨entry', selects', minimal⟩ := negotiates.selected supported
      obtain rfl : entry = last := Option.some.inj (lastEntry.symm.trans ends)
      obtain rfl : entry' = entry := Option.some.inj (selects'.symm.trans selected)
      exact minimal
  · intro clear
    obtain ⟨named, minimal⟩ := clear chosen is
    have sameId : last.schemaId = chosen.schemaId := by
      simpa using (List.mem_filter.mp (List.mem_of_getLast? ends)).2
    have sent : responses (.respond (.supportedAppProtocol ⟨.okSuccessfulNegotiation, some chosen.schemaId⟩) ::
        announcements custom chosen.schemaId entries) =
          [.supportedAppProtocol ⟨.okSuccessfulNegotiation, some chosen.schemaId⟩] := by
      simp [responses_announcements, Output.response?]
    exact
      { returns := ⟨_, rfl⟩
        answered := ⟨_, sent, iff_of_true rfl supported, fun _ => ⟨last, minimal last ends, by rw [sameId]⟩⟩
        moved := iff_of_true rfl supported
        selected := fun _ => ⟨last, selected, minimal last ends⟩
        announced := fun _ => by
          obtain ⟨name, tells⟩ := Option.isSome_iff_exists.mp ((announcement_isSome_iff custom chosen).mpr supports)
          exact ⟨name, (logged name).mpr ⟨chosen, is.member.1, rfl, tells⟩⟩
        named := fun name member => by
          obtain ⟨entry, inside, asked, tells⟩ := (logged name).mp member
          have accepts := ((announcement_isSome_iff custom entry).mp (by rw [tells]; rfl)).accepted
          obtain ⟨-, other, isMinimal, same⟩ := named entry inside asked accepts
          exact ⟨other, isMinimal, same.trans tells⟩ }

end Negotiates

section Feed

variable (platform : Platform) {ctx : Context} {req : SupportedAppProtocolRequest}
  (pending : ctx.request = some (.request (.supportedAppProtocol req)))
include pending

def answeredContext (platform : Platform) (ctx : Context) (req : SupportedAppProtocolRequest)
    (res : SupportedAppProtocolResponse) : Context :=
  { ctx with
    request := none
    pendingResponse := platform.encode (.supportedAppProtocol res)
    evInfo := { ctx.evInfo with evSupportedAppProtocols := req.appProtocol } }

theorem negotiation_refused
    (none : (evSupportedProtocols ctx.sessionConfig.customProtocol req.appProtocol).first = none) :
    State.SupportedAppProtocol.feed platform .v2gtpMessage ctx =
      ⟨.ok {}, answeredContext platform ctx req { responseCode := .failedNoNegotiation },
        [.respond (.supportedAppProtocol { responseCode := .failedNoNegotiation })]⟩ := by
  suffices spec : Act.wp (State.SupportedAppProtocol.feed platform .v2gtpMessage) (fun result ctx' log =>
      result = .ok {} ∧ ctx' = answeredContext platform ctx req { responseCode := .failedNoNegotiation } ∧
        log = [.respond (.supportedAppProtocol { responseCode := .failedNoNegotiation })]) ctx by
    obtain ⟨result, state, log⟩ := spec
    rw [← result, ← state, ← log]
  simp only [State.SupportedAppProtocol.feed, Act.wp_bind, Act.wp_ite, Feed.wp_pullRequest _ pending]
  simp [handleSupportedAppProtocol, none, Platform.stringsFit, answeredContext]

theorem negotiation_answered {schemaId : UInt8}
    (found : (evSupportedProtocols ctx.sessionConfig.customProtocol req.appProtocol).first = some schemaId)
    (post : Except Exn Result → Context → List Output → Prop) :
    Act.wp (State.SupportedAppProtocol.feed platform .v2gtpMessage) post ctx ↔
      Act.wp (State.SupportedAppProtocol.selectAll (some schemaId) req.appProtocol) (fun result ctx' log =>
          post (result.map fun _ => .createState .sessionSetup) ctx'
            (.respond (.supportedAppProtocol ⟨.okSuccessfulNegotiation, some schemaId⟩) :: log))
        (answeredContext platform ctx req ⟨.okSuccessfulNegotiation, some schemaId⟩) := by
  simp only [State.SupportedAppProtocol.feed, Act.wp_bind, Act.wp_ite, Feed.wp_pullRequest _ pending]
  simp only [Act.wp_get, Act.wp_modify, Act.wp_pure, Feed.wp_respond, handleSupportedAppProtocol, found,
    Platform.stringsFit, ne_eq, not_true_eq_false, false_implies, not_false_eq_true, true_implies,
    reduceCtorEq, true_and, and_true, List.nil_append, List.append_nil]
  unfold Act.wp answeredContext
  generalize State.SupportedAppProtocol.selectAll (some schemaId) req.appProtocol _ = outcome
  obtain ⟨result, state, log⟩ := outcome
  cases result <;> rfl

/-- The state negotiates as it is to, exactly when the entries are clear. -/
theorem negotiation_iff :
    Act.wp (State.SupportedAppProtocol.feed platform .v2gtpMessage)
        (Negotiates ctx.sessionConfig.customProtocol req.appProtocol) ctx ↔
      Clear ctx.sessionConfig.customProtocol req.appProtocol := by
  cases first : (evSupportedProtocols ctx.sessionConfig.customProtocol req.appProtocol).first with
  | none =>
      have unaccepted := first_evSupportedProtocols_eq_none _ first
      have unsupported : ¬∃ entry ∈ req.appProtocol, Supported ctx.sessionConfig.customProtocol entry := by
        rintro ⟨entry, member, supported⟩
        exact unaccepted entry member (supported.accepted _)
      rw [Act.wp, negotiation_refused platform pending first]
      refine iff_of_true ?_ fun chosen is => absurd (is.member _).2 (unaccepted chosen (is.member _).1)
      exact
        { returns := ⟨_, rfl⟩
          answered := ⟨_, rfl, iff_of_false (by simp) unsupported, by simp⟩
          moved := iff_of_false (by intro moves; cases moves) unsupported
          selected := fun supported => absurd supported unsupported
          announced := fun supported => absurd supported unsupported
          named := by simp }
  | some schemaId =>
      obtain ⟨chosen, is, rfl⟩ := (first_evSupportedProtocols_iff _ _ _).mp first
      rw [negotiation_answered platform pending first]
      by_cases harmless : Harmless ctx.sessionConfig.customProtocol chosen.schemaId req.appProtocol
      · have loop := selectAll_harmless chosen.schemaId req.appProtocol
          (answeredContext platform ctx req ⟨.okSuccessfulNegotiation, some chosen.schemaId⟩) harmless
        rw [Act.wp, loop]
        exact negotiates_iff_clear _ is harmless rfl
      · have thrown := selectAll_harmful chosen.schemaId req.appProtocol
          (answeredContext platform ctx req ⟨.okSuccessfulNegotiation, some chosen.schemaId⟩) harmless
        rw [Act.wp, thrown]
        constructor
        · intro negotiates
          obtain ⟨next, returned⟩ := negotiates.returns
          cases returned
        · intro clear
          exact absurd (fun entry inside asked accepts => ((clear chosen is).1 entry inside asked accepts).1) harmless

end Feed

namespace Sample

def negotiating (entries : List SupportedAppProtocol) : Context :=
  { (Fsm.new config none (sessionId 9)).ctx with request := some (.request (.supportedAppProtocol ⟨entries⟩)) }

def dcEntry (schemaId priority : UInt8) : SupportedAppProtocol := ⟨iso20DcNamespace, 1, 0, schemaId, priority⟩

end Sample

open Sample

theorem negotiation_two :
    Act.wp (State.SupportedAppProtocol.feed platform .v2gtpMessage)
      (Negotiates none [dcEntry 1 2, dcEntry 2 1]) (negotiating [dcEntry 1 2, dcEntry 2 1]) := by
  refine (@negotiation_iff platform (negotiating [dcEntry 1 2, dcEntry 2 1])
    ⟨[dcEntry 1 2, dcEntry 2 1]⟩ rfl).mpr fun chosen is => ?_
  have supported (schemaId priority : UInt8) : Supported none (dcEntry schemaId priority) := .inl rfl
  have minimal : Minimal none [dcEntry 1 2, dcEntry 2 1] (dcEntry 2 1) := by
    refine ⟨by simp, supported 2 1, fun other member _ => ?_⟩
    simp only [List.mem_cons, List.not_mem_nil, or_false] at member
    rcases member with rfl | rfl <;> decide
  have inside := is.member.1
  simp only [List.mem_cons, List.not_mem_nil, or_false] at inside
  rcases inside with rfl | rfl
  · exact absurd (is.2 (dcEntry 2 1) (by simp) (supported 2 1).accepted) (by decide)
  · refine ⟨fun entry member shares accepted => ?_, fun last ends => ?_⟩
    · simp only [List.mem_cons, List.not_mem_nil, or_false] at member
      rcases member with rfl | rfl
      · cases shares
      · exact ⟨supported 2 1, _, minimal, rfl⟩
    · obtain rfl := Option.some.inj ends
      exact minimal

/-- An entry without namespace is accepted although no namespace is configured, and the state throws. -/
theorem negotiation_throws :
    ¬∀ (platform : Platform) (ctx : Context) (req : SupportedAppProtocolRequest),
      ctx.request = some (.request (.supportedAppProtocol req)) →
        Act.wp (State.SupportedAppProtocol.feed platform .v2gtpMessage)
          (Negotiates ctx.sessionConfig.customProtocol req.appProtocol) ctx := by
  intro negotiates
  obtain ⟨next, returned⟩ :=
    (negotiates platform (negotiating [⟨"", 1, 0, 1, 1⟩]) ⟨[⟨"", 1, 0, 1, 1⟩]⟩ rfl).returns
  have thrown : (State.SupportedAppProtocol.feed platform .v2gtpMessage
      (negotiating [⟨"", 1, 0, 1, 1⟩])).result.isOk = false := by decide +kernel
  rw [returned] at thrown
  cases thrown

end LibIso15118
