import NousKernel.Separators
import NousKernel.ValidLeases

/-!
Texts that join identifiers by ':' (`nous-state/src/fencing.rs` and `nous-resource/src/lease.rs`).
A token is its node id, ':' and a number, and is split at its first ':'. A resource key is a
node id, ':' and a device id. The parts are read back, and different pairs have different keys,
as long as no ':' stands within a node id.
-/

set_option autoImplicit false

namespace NousKernel

/-! ### Numbers -/

theorem digits_of_parseDigits {text : List Char} {acc value : Nat}
    (parsed : parseDigits acc text = some value) : ∀ c ∈ text, isAsciiDigit c = true := by
  induction text generalizing acc with
  | nil => exact fun _ none => absurd none List.not_mem_nil
  | cons c rest ih =>
      rw [parseDigits] at parsed
      split at parsed
      · rename_i digit
        dsimp only at parsed
        split at parsed
        · exact List.forall_mem_cons.mpr ⟨digit, ih parsed⟩
        · cases parsed
      · cases parsed

/-- A number has no ':' in it. -/
theorem parseU64_colon {text : List Char} (colon : ':' ∈ text) : parseU64 text = none := by
  have none : ∀ {digits : List Char}, ':' ∈ digits → parseDigits 0 digits = none := by
    intro digits member
    cases parsed : parseDigits 0 digits with
    | none => rfl
    | some value => exact absurd (digits_of_parseDigits parsed ':' member) (by decide)
  unfold parseU64
  split
  · rfl
  · rfl
  · exact none (List.mem_of_ne_of_mem (by decide) colon)
  · exact none colon

theorem colon_notMem_toString (value : Nat) : ':' ∉ (toString value).toList :=
  fun colon => absurd (isDigit_toString value ':' colon) (by decide)

/-! ### Tokens -/

namespace FencingToken

variable {fencing current provided : FencingToken}

theorem next_toList (fencing : FencingToken) : fencing.next.1.toList =
    fencing.nodeId.toList ++ ':' :: (toString (fencing.value + 1).toNat).toList := by
  simp [next]

/-- A token whose node id has a ':' is split within the node id. -/
theorem parse_next_colon (colon : ':' ∈ fencing.nodeId.toList) :
    parse fencing.next.1 = none := by
  obtain ⟨front, back, split, free⟩ := List.eq_append_cons_of_mem colon
  have text : fencing.next.1.toList =
      front ++ ':' :: (back ++ ':' :: (toString (fencing.value + 1).toNat).toList) := by
    rw [next_toList, split, List.append_assoc, List.cons_append]
  rw [parse, text, splitOnce_colon free]
  dsimp only
  rw [parseU64_colon (List.mem_append_right _ (.head _)), Option.map_none]

theorem parse_next_iff :
    parse fencing.next.1 = some (fencing.nodeId.toList, (fencing.value + 1).toNat) ↔
      ':' ∉ fencing.nodeId.toList := by
  constructor
  · intro parsed colon
    rw [parse_next_colon colon] at parsed
    cases parsed
  · exact parse_next_free

/-- A token is issued by one state of one generator. -/
theorem next_inj : current.next.1 = provided.next.1 ↔ current = provided := by
  constructor
  · intro same
    have texts := congrArg String.toList same
    rw [next_toList, next_toList] at texts
    obtain ⟨nodes, numbers⟩ := Separators.split_last (colon_notMem_toString _)
      (colon_notMem_toString _) texts
    have parsed := parseU64_toString current.next_bound
    rw [numbers, parseU64_toString provided.next_bound, Option.some.injEq] at parsed
    have values := (UInt64.add_left_inj 1).mp (UInt64.toNat_inj.mp parsed.symm)
    cases current
    cases provided
    exact congrArg₂ mk values (String.toList_inj.mp nodes)
  · exact fun same => congrArg (fun fencing => fencing.next.1) same

/-- Two issued tokens pass for one another when they are one token whose node id has no ':'. -/
theorem isTokenValid_next_iff : isTokenValid current.next.1 provided.next.1 = true ↔
    current = provided ∧ ':' ∉ current.nodeId.toList := by
  by_cases colon : ':' ∈ current.nodeId.toList
  · simp [isTokenValid, parse_next_colon colon, colon]
  · by_cases colon' : ':' ∈ provided.nodeId.toList
    · have apart : current ≠ provided := by
        rintro rfl
        exact colon colon'
      simp [isTokenValid, parse_next_colon colon', parse_next_free colon, apart]
    · simp only [isTokenValid, parse_next_free colon, parse_next_free colon', Bool.and_eq_true,
        beq_iff_eq, colon, not_false_eq_true, and_true]
      constructor
      · rintro ⟨nodes, numbers⟩
        refine next_inj.mp (String.toList_inj.mp ?_)
        rw [next_toList, next_toList, nodes, numbers]
      · rintro rfl
        exact ⟨rfl, rfl⟩

end FencingToken

/-! ### Resource keys -/

/-- One node id runs on past the other with a ':' and the beginning of its device id. -/
def Straddles (nodeId deviceId nodeId' deviceId' : String) : Prop :=
  ∃ part, (nodeId' = nodeId ++ ":" ++ part ∧ deviceId = part ++ ":" ++ deviceId') ∨
    (nodeId = nodeId' ++ ":" ++ part ∧ deviceId' = part ++ ":" ++ deviceId)

theorem joined_eq_iff {text front back : String} :
    text = front ++ ":" ++ back ↔ text.toList = front.toList ++ ':' :: back.toList := by
  rw [← String.toList_inj]
  simp

/-- Two pairs have one key when they are one pair or one straddles the other. -/
theorem resourceKey_eq_iff {nodeId deviceId nodeId' deviceId' : String} :
    LeaseManager.resourceKey nodeId deviceId = LeaseManager.resourceKey nodeId' deviceId' ↔
      (nodeId, deviceId) = (nodeId', deviceId') ∨ Straddles nodeId deviceId nodeId' deviceId' := by
  have keys : LeaseManager.resourceKey nodeId deviceId = LeaseManager.resourceKey nodeId' deviceId' ↔
      nodeId.toList ++ ':' :: deviceId.toList = nodeId'.toList ++ ':' :: deviceId'.toList := by
    rw [← String.toList_inj]
    simp [LeaseManager.resourceKey]
  rw [keys]
  constructor
  · intro same
    rcases Separators.split_any same with ⟨nodes, devices⟩ | ⟨part, longer, rest⟩ |
      ⟨part, longer, rest⟩
    · rw [String.toList_inj.mp nodes, String.toList_inj.mp devices]
      exact .inl rfl
    · refine .inr ⟨String.ofList part, .inl ⟨?_, ?_⟩⟩
      · simpa [joined_eq_iff] using longer
      · simpa [joined_eq_iff] using rest
    · refine .inr ⟨String.ofList part, .inr ⟨?_, ?_⟩⟩
      · simpa [joined_eq_iff] using longer
      · simpa [joined_eq_iff] using rest
  · rintro (same | ⟨part, ⟨rfl, rfl⟩ | ⟨rfl, rfl⟩⟩)
    · cases same
      rfl
    · simp
    · simp

theorem Straddles.ne {nodeId deviceId nodeId' deviceId' : String}
    (straddles : Straddles nodeId deviceId nodeId' deviceId') :
    (nodeId, deviceId) ≠ (nodeId', deviceId') := by
  intro same
  cases same
  obtain ⟨part, ⟨longer, -⟩ | ⟨longer, -⟩⟩ := straddles
  all_goals
    have lengths := congrArg String.length longer
    simp only [String.length_append] at lengths
    have one : ":".length = 1 := by decide
    omega

theorem resourceKey_apart_iff {nodeId deviceId nodeId' deviceId' : String} :
    ((nodeId, deviceId) ≠ (nodeId', deviceId') →
      LeaseManager.resourceKey nodeId deviceId ≠ LeaseManager.resourceKey nodeId' deviceId') ↔
      ¬Straddles nodeId deviceId nodeId' deviceId' := by
  rw [ne_eq (LeaseManager.resourceKey _ _), resourceKey_eq_iff]
  constructor
  · intro apart straddles
    exact apart straddles.ne (.inr straddles)
  · rintro plain different (same | straddles)
    · exact different same
    · exact plain straddles

/-! ### Grants beside a holder -/

namespace LeaseDesk

open LeaseManager (resourceKey)

/-- The tokens of the table were issued by the manager's generator. -/
structure Issued (desk : LeaseDesk) : Prop where
  free : ':' ∉ desk.manager.fencing.nodeId.toList
  drawn : ∀ leaseId token, desk.manager.leaseTokens.lookup leaseId = some token →
    ∃ value, (FencingToken.mk value desk.manager.fencing.nodeId).next.1 = token

variable {desk : LeaseDesk} {call : LeaseCall}

theorem Issued.start (duration : Int) (uuids : UuidSource) (clock : Int) :
    (start duration uuids clock).Issued where
  free := (Kept.start duration uuids clock).nodeId
  drawn _ _ found := by cases found

theorem Issued.serve (issued : desk.Issued) : (desk.serve call).Issued := by
  have effect := served desk call
  generalize desk.serve call = later at effect ⊢
  cases effect with
  | refused error answered => exact ⟨issued.free, issued.drawn⟩
  | granted workloadId principalId resources nodeId deviceId renewable fenced asked made vacant
      answered =>
      refine ⟨issued.free, ?_⟩
      intro leaseId token found
      by_cases own : leaseId = fenced.lease.leaseId
      · subst own
        have lookup := found.symm.trans (AList.lookup_insert desk.manager.leaseTokens)
        rw [Option.some.injEq] at lookup
        rw [lookup, made]
        exact ⟨desk.manager.fencing.value, rfl⟩
      · exact issued.drawn leaseId token ((AList.lookup_insert_ne own).symm.trans found)
  | renewed renewedId expectedGeneration old asked here valid answered =>
      exact ⟨issued.free, issued.drawn⟩
  | released erased asked answered =>
      refine ⟨issued.free, ?_⟩
      intro leaseId token found
      by_cases own : leaseId = erased
      · subst own
        cases found.symm.trans (AList.lookup_erase leaseId desk.manager.leaseTokens)
      · exact issued.drawn leaseId token ((AList.lookup_erase_ne own).symm.trans found)
  | expired workloadIds asked answered =>
      refine ⟨issued.free, ?_⟩
      intro leaseId token found
      have kept := (LeaseManager.tokens_tryExpireStale leaseId).symm.trans found
      split at kept
      · cases kept
      · exact issued.drawn leaseId token kept

/-- The holder of another device stays authorized through a grant unless the devices have one
key, and then only if the grant draws the holder's own token again. -/
theorem authorize_beside {duration : Int} (issued : desk.Issued) (drawn : Drawn duration desk)
    {fenced : FencedLease} (granted : desk.reply call = .ok (.granted fenced))
    {leaseId token : String} {lease : ResourceLease}
    (held : desk.manager.authorize (desk.serve call).clock leaseId token = true)
    (found : desk.manager.leases.lookup leaseId = some lease)
    (other : (lease.nodeId, lease.deviceId) ≠ (fenced.lease.nodeId, fenced.lease.deviceId)) :
    (desk.serve call).manager.authorize (desk.serve call).clock leaseId token = true ↔
      ¬Straddles lease.nodeId lease.deviceId fenced.lease.nodeId fenced.lease.deviceId ∨
        token = desk.manager.fencing.next.1 := by
  obtain ⟨_, current, here, valid, assigned, recorded, passes⟩ := authorize_true held
  rw [found, Option.some.injEq] at here
  subst here
  have effect := served desk call
  generalize desk.serve call = later at effect valid ⊢
  cases effect with
  | refused _ answered | renewed _ _ _ _ _ _ answered | released _ _ answered
  | expired _ _ answered =>
      rw [granted] at answered
      cases answered
  | granted workloadId principalId resources nodeId deviceId renewable made asked book vacant
      answered =>
      rw [granted, Except.ok.injEq, LeaseReply.granted.injEq] at answered
      subst answered
      -- The id of the new lease is fresh, so the holder's entries stay.
      have fresh : leaseId ≠ fenced.lease.leaseId := by
        obtain ⟨index, before, same⟩ := drawn.ids leaseId lease found
        intro own
        rw [book] at own
        have position := desk.uuids.injective (same.trans own)
        omega
      have stays : (desk.manager.book fenced).leases.lookup leaseId = some lease :=
        (AList.lookup_insert_ne fresh).trans found
      have keeps : (desk.manager.book fenced).leaseTokens.lookup leaseId = some token :=
        (AList.lookup_insert_ne fresh).trans assigned
      have key : fenced.resourceKey = resourceKey fenced.lease.nodeId fenced.lease.deviceId := by
        rw [book]
        rfl
      have drew : fenced.fencingToken = desk.manager.fencing.next.1 := by
        rw [book]
        rfl
      by_cases same : resourceKey lease.nodeId lease.deviceId =
          resourceKey fenced.lease.nodeId fenced.lease.deviceId
      · have straddles := (resourceKey_eq_iff.mp same).resolve_left other
        have replaced : (desk.manager.book fenced).resourceTokens.lookup
            (resourceKey lease.nodeId lease.deviceId) = some desk.manager.fencing.next.1 := by
          rw [same, ← key, ← drew]
          exact AList.lookup_insert _
        obtain ⟨value, issue⟩ := issued.drawn leaseId token assigned
        constructor
        · intro authorized
          obtain ⟨_, newest, here, -, -, now, passes⟩ := authorize_true authorized
          rw [stays, Option.some.injEq] at here
          subst here
          rw [replaced, Option.some.injEq] at now
          rw [← now, ← issue, FencingToken.isTokenValid_next_iff] at passes
          right
          rw [← issue, ← passes.1]
        · rintro (plain | again)
          · exact absurd straddles plain
          · refine authorize_of stays valid keeps replaced ?_
            rw [again, FencingToken.isTokenValid_next_iff]
            exact ⟨rfl, issued.free⟩
      · have plain : ¬Straddles lease.nodeId lease.deviceId fenced.lease.nodeId
            fenced.lease.deviceId := fun straddles =>
          same (resourceKey_eq_iff.mpr (.inr straddles))
        have remains : (desk.manager.book fenced).resourceTokens.lookup
            (resourceKey lease.nodeId lease.deviceId) = some current := by
          rw [← key] at same
          exact (AList.lookup_insert_ne same).trans recorded
        exact iff_of_true (authorize_of stays valid keeps remains passes) (.inl plain)

end LeaseDesk

/-- Tokens are read back and pass for themselves when their node id has no ':'. Different pairs
have different keys when neither straddles the other, and in every history of the lease manager
a grant fences out the holder of another device exactly when their keys are one, unless the
counter has come round to the holder's token. -/
theorem fencing_identifiers_iff (current provided : FencingToken)
    (nodeId deviceId nodeId' deviceId' : String) (duration : Int) (uuids : UuidSource)
    (clock : Int) (calls : List LeaseCall) (call : LeaseCall) :
    (FencingToken.parse current.next.1 =
        some (current.nodeId.toList, (current.value + 1).toNat) ↔
      ':' ∉ current.nodeId.toList) ∧
    ((FencingToken.isTokenValid current.next.1 provided.next.1 = true ↔
        provided.next.1 = current.next.1) ↔
      (':' ∈ current.nodeId.toList → provided ≠ current)) ∧
    (((nodeId, deviceId) ≠ (nodeId', deviceId') →
        LeaseManager.resourceKey nodeId deviceId ≠ LeaseManager.resourceKey nodeId' deviceId') ↔
      ¬Straddles nodeId deviceId nodeId' deviceId') ∧
    ∀ fenced leaseId token lease,
      (LeaseDesk.after duration uuids clock calls).reply call = .ok (.granted fenced) →
      (LeaseDesk.after duration uuids clock calls).manager.authorize
        (LeaseDesk.after duration uuids clock (calls ++ [call])).clock leaseId token = true →
      (LeaseDesk.after duration uuids clock calls).manager.leases.lookup leaseId = some lease →
      (lease.nodeId, lease.deviceId) ≠ (fenced.lease.nodeId, fenced.lease.deviceId) →
      ((LeaseDesk.after duration uuids clock (calls ++ [call])).manager.authorize
          (LeaseDesk.after duration uuids clock (calls ++ [call])).clock leaseId token = true ↔
        ¬Straddles lease.nodeId lease.deviceId fenced.lease.nodeId fenced.lease.deviceId ∨
          token = (LeaseDesk.after duration uuids clock calls).manager.fencing.next.1) := by
  refine ⟨FencingToken.parse_next_iff, ?_, resourceKey_apart_iff, ?_⟩
  · rw [FencingToken.isTokenValid_next_iff, FencingToken.next_inj, eq_comm]
    tauto
  · intro fenced leaseId token lease granted held found other
    have issued : (LeaseDesk.after duration uuids clock calls).Issued :=
      Stepwise.run_invariant (fun _ _ issued => issued.serve)
        (LeaseDesk.Issued.start duration uuids clock) calls
    have drawn : LeaseDesk.Drawn duration (LeaseDesk.after duration uuids clock calls) :=
      Stepwise.run_invariant (fun _ _ drawn => drawn.serve)
        ⟨rfl, fun _ _ found => by cases found⟩ calls
    have moved : LeaseDesk.after duration uuids clock (calls ++ [call]) =
        (LeaseDesk.after duration uuids clock calls).serve call := Stepwise.run_concat calls call
    rw [moved] at held ⊢
    exact LeaseDesk.authorize_beside issued drawn granted held found other

/-- A generator for a node whose id has a port. -/
def portFencing : FencingToken := ⟨0, "rack:7400"⟩

/-- One device of one node, and a device of a node whose id has a ':'. -/
def colonGrants : List LeaseCall :=
  [⟨0, .grantFenced "w-1" "runtime" {} "rack" "cuda:0" true⟩,
    ⟨0, .grantFenced "w-2" "runtime" {} "rack:cuda" "0" true⟩]

theorem colon_identifiers_ambiguous :
    FencingToken.parse portFencing.next.1 = none ∧
      FencingToken.isTokenValid portFencing.next.1 portFencing.next.1 = false ∧
      LeaseManager.resourceKey "rack" "cuda:0" = LeaseManager.resourceKey "rack:cuda" "0" ∧
      (LeaseDesk.after 60000000 sampleUuids 0 (colonGrants.take 1)).manager.authorize 0
        (sampleUuids.nowV7 1) "lease-:1" = true ∧
      (LeaseDesk.after 60000000 sampleUuids 0 colonGrants).manager.authorize 0
        (sampleUuids.nowV7 1) "lease-:1" = false := by
  decide +kernel

end NousKernel
