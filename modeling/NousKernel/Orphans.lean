import NousKernel.Restoration
import NousKernel.Fencing
import NousKernel.Separators

/-!
Crashes of concurrent executions, and the revocation of the leases they leave
open. It succeeds exactly when each open lease belongs to a workload whose
operation intent is in the journal, and its own key is free.
-/

set_option autoImplicit false

namespace NousKernel

open Resumption Resumption.Discipline Resumption.Prog Separators

/-! ### The journals of executions -/

/-- The worlds of a kernel that serves executions, any number at a time, and
crashes at any moment. -/
inductive Served : World → Prop
  | boot (uuids : UuidSource) (clock : Int) : Served (.boot uuids clock)
  | executions {w : World} (served : Served w) (requests : List OperationRequest)
      (schedule : List (Nat × Choice)) :
      Served ((executions requests w).run kernel schedule).world
  | restart {w : World} (served : Served w) : Served w.restart

/-- All that is journaled was written by the runtime. -/
def Genuine (w : World) : Prop := ∀ entry ∈ w.journal.entries, Recorded (fun _ => True) entry

theorem Genuine.answer {w : World} {r : OperationRequest} {call : Call} (genuine : Genuine w)
    (concerns : Concerns r call) (choice : Choice) : Genuine (kernelAnswer call w choice).2 := by
  have grown : Grown r w.journal.entries w := ⟨[], by simp, by simp⟩
  obtain ⟨more, rows, mine⟩ := grown.answer concerns choice
  intro entry member
  rw [rows] at member
  rcases List.mem_append.mp member with old | new
  · exact genuine entry old
  · obtain ⟨written, sequence, now, shape, stored⟩ := (mine entry new).recorded
    exact ⟨written, sequence, now, shape.mono fun _ _ => trivial, stored⟩

/-- Executions that know nothing of each other. -/
def servers : Company Call Answer World Choice where
  machine := kernel
  inv := Genuine
  allow _ _ _ := True
  rely _ _ _ := True
  guar _ _ _ := True

theorem executions_genuine {w : World} (genuine : Genuine w) (requests : List OperationRequest)
    (schedule : List (Nat × Choice)) :
    Genuine ((executions requests w).run kernel schedule).world := by
  have tolerant : servers.Tolerant :=
    ⟨fun _ => ⟨fun _ => trivial, fun _ _ => trivial⟩, fun _ _ _ _ _ _ => trivial⟩
  have holds : servers.Holds (fun _ _ _ => True) (executions requests w) := by
    refine ⟨genuine, fun index p present => ?_⟩
    rw [executions, List.getElem?_map] at present
    obtain ⟨r, -, rfl⟩ := Option.map_eq_some_iff.mp present
    have calls : (execute r).run.Calls (Honest fun _ => True) (Concerns r) fun _ => True :=
      calls_attempt r false
    refine (Safe.of_calls (fun _ => True) calls ?_ (fun _ _ _ _ _ => trivial) trivial).mono
      fun _ _ _ _ => trivial
    intro call now choice concerns _ genuine _
    exact ⟨honest_answer call now choice trivial, genuine.answer concerns choice, trivial, trivial⟩
  exact (holds.run tolerant schedule fun _ _ _ _ => trivial).inv

theorem Served.genuine {w : World} (served : Served w) : Genuine w := by
  induction served with
  | boot uuids clock => exact fun entry member => by cases member
  | executions served requests schedule genuine =>
      exact executions_genuine genuine requests schedule
  | restart served genuine => exact genuine

/-! ### Open leases -/

/-- The entry journals a grant of the lease. -/
def Opens (leaseId workloadId : String) (entry : Entry) : Prop :=
  entry.objectType = "ResourceLease" ∧ entry.newPhase = "ACTIVE" ∧ entry.workloadId = workloadId ∧
    ∃ fenced, entry.payload = .fencedLease fenced ∧ fenced.lease.leaseId = leaseId

/-- The entry journals the end of the lease. -/
def Shuts (leaseId : String) (entry : Entry) : Prop :=
  entry.objectType = "ResourceLease" ∧ (entry.newPhase = "RELEASED" ∨ entry.newPhase = "REVOKED") ∧
    entry.payload.leaseId? = some leaseId

/-- The entry journals an intent of the request. -/
def Intends (r : OperationRequest) (entry : Entry) : Prop :=
  entry.objectType = "Operation" ∧ entry.entryType = .intent ∧ entry.payload = .request r

/-- The last word about the lease is a grant, to this workload. -/
def OpenLease (entries : List Entry) (leaseId workloadId : String) : Prop :=
  Lately (Opens leaseId workloadId)
    (fun entry => Shuts leaseId entry ∨ ∃ other, Opens leaseId other entry) entries

/-- The last intent of the workload is that of `r`. -/
def LastIntent (entries : List Entry) (workloadId : String) (r : OperationRequest) : Prop :=
  Lately (fun entry => Intends r entry ∧ r.workloadId = workloadId)
    (fun entry => ∃ q, Intends q entry ∧ q.workloadId = workloadId) entries

/-- Each journaled grant is followed by the end of its lease. -/
def AllEnded (entries : List Entry) : Prop :=
  ∀ before entry after leaseId workloadId, entries = before ++ entry :: after →
    Opens leaseId workloadId entry → ∃ closing ∈ after, Shuts leaseId closing

theorem scanLeases_snoc (entries : List Entry) (entry : Entry) :
    scanLeases (entries ++ [entry]) = scanStep (scanLeases entries) entry := by
  simp [scanLeases]

section Scan

variable {Input : OperationRequest → Prop} {entry : Entry} {entries : List Entry}
  {leaseId workloadId : String}

/-- What one entry of the runtime is to the scan. -/
inductive Scanned (entry : Entry) : Prop
  | intent (r : OperationRequest) (opens : ∀ leaseId workloadId, ¬ Opens leaseId workloadId entry)
      (shuts : ∀ leaseId, ¬ Shuts leaseId entry) (intends : ∀ q, Intends q entry ↔ q = r)
      (step : ∀ scan, scanStep scan entry =
        { scan with requests := scan.requests.insert r.workloadId r })
  | active (fenced : FencedLease) (hyphenated : ':' ∉ fenced.lease.leaseId.toList)
      (opens : ∀ leaseId workloadId, Opens leaseId workloadId entry ↔
        leaseId = fenced.lease.leaseId ∧ workloadId = entry.workloadId)
      (shuts : ∀ leaseId, ¬ Shuts leaseId entry) (intends : ∀ q, ¬ Intends q entry)
      (step : ∀ scan, scanStep scan entry =
        { scan with
          active := scan.active.insert fenced.lease.leaseId (entry.workloadId, fenced) })
  | shut (closed : String) (opens : ∀ leaseId workloadId, ¬ Opens leaseId workloadId entry)
      (shuts : ∀ leaseId, Shuts leaseId entry ↔ leaseId = closed)
      (intends : ∀ q, ¬ Intends q entry)
      (step : ∀ scan, scanStep scan entry = { scan with active := scan.active.erase closed })
  | other (opens : ∀ leaseId workloadId, ¬ Opens leaseId workloadId entry)
      (shuts : ∀ leaseId, ¬ Shuts leaseId entry) (intends : ∀ q, ¬ Intends q entry)
      (step : ∀ scan, scanStep scan entry = scan)

theorem Recorded.scanned (recorded : Recorded Input entry) : Scanned entry := by
  obtain ⟨written, sequence, now, shape, rfl⟩ := recorded
  cases shape with
  | active r fenced known hyphenated =>
      refine .active fenced hyphenated ?_ ?_ ?_ fun _ => rfl
      · simp [Opens, Journal.stamp, entryOf, eq_comm, and_comm]
      · simp [Shuts, Journal.stamp, entryOf]
      · simp [Intends, Journal.stamp, entryOf]
  | intent r known =>
      refine .intent r ?_ ?_ ?_ fun _ => rfl
      · simp [Opens, Journal.stamp, entryOf]
      · simp [Shuts, Journal.stamp, entryOf]
      · simp [Intends, Journal.stamp, entryOf, eq_comm]
  | rebound r known =>
      refine .intent r ?_ ?_ ?_ fun _ => rfl
      · simp [Opens, Journal.stamp, entryOf]
      · simp [Shuts, Journal.stamp, entryOf]
      · simp [Intends, Journal.stamp, entryOf, eq_comm]
  | released r leaseId known =>
      refine .shut leaseId ?_ ?_ ?_ fun _ => rfl
      · simp [Opens, Journal.stamp, entryOf]
      · simp [Shuts, Journal.stamp, entryOf, Payload.leaseId?, eq_comm]
      · simp [Intends, Journal.stamp, entryOf]
  | revoked r leaseId token reason lease known =>
      refine .shut leaseId ?_ ?_ ?_ fun _ => rfl
      · simp [Opens, Journal.stamp, entryOf]
      · simp [Shuts, Journal.stamp, entryOf, Payload.leaseId?, eq_comm]
      · simp [Intends, Journal.stamp, entryOf]
  | _ =>
      refine .other ?_ ?_ ?_ fun _ => ?_
      · simp [Opens, Journal.stamp, entryOf, profileEntry]
      · simp [Shuts, Journal.stamp, entryOf, profileEntry]
      · simp [Intends, Journal.stamp, entryOf, profileEntry]
      · simp [scanStep, Journal.stamp, entryOf, profileEntry]

theorem openLease_snoc (entries : List Entry) (entry : Entry) (leaseId workloadId : String) :
    OpenLease (entries ++ [entry]) leaseId workloadId ↔ Opens leaseId workloadId entry ∨
      ¬ (Shuts leaseId entry ∨ ∃ other, Opens leaseId other entry) ∧
        OpenLease entries leaseId workloadId :=
  lately_snoc _ _ entries entry

theorem lastIntent_snoc (entries : List Entry) (entry : Entry) (workloadId : String)
    (r : OperationRequest) :
    LastIntent (entries ++ [entry]) workloadId r ↔ (Intends r entry ∧ r.workloadId = workloadId) ∨
      ¬ (∃ q, Intends q entry ∧ q.workloadId = workloadId) ∧ LastIntent entries workloadId r :=
  lately_snoc _ _ entries entry

theorem scan_requests_iff (recorded : ∀ entry ∈ entries, Recorded Input entry)
    (r : OperationRequest) :
    (scanLeases entries).requests.lookup workloadId = some r ↔ LastIntent entries workloadId r := by
  induction entries using List.reverseRecOn with
  | nil => simp [scanLeases, LastIntent, lately_nil]
  | append_singleton entries entry ih =>
      have known := ih fun other member => recorded other (List.mem_append_left _ member)
      rw [scanLeases_snoc, lastIntent_snoc, ← known]
      cases (recorded entry (by simp)).scanned with
      | intent q opens shuts intends step =>
          rw [step]
          by_cases own : workloadId = q.workloadId
          · subst own
            simp only [AList.lookup_insert, intends]
            grind
          · simp only [AList.lookup_insert_ne own, intends]
            grind
      | active fenced hyphenated opens shuts intends step => simp [step, intends]
      | shut closed opens shuts intends step => simp [step, intends]
      | other opens shuts intends step => simp [step, intends]

theorem scan_active_iff (recorded : ∀ entry ∈ entries, Recorded Input entry) :
    (∃ fenced, (scanLeases entries).active.lookup leaseId = some (workloadId, fenced)) ↔
      OpenLease entries leaseId workloadId := by
  induction entries using List.reverseRecOn with
  | nil => simp [scanLeases, OpenLease, lately_nil]
  | append_singleton entries entry ih =>
      have known := ih fun other member => recorded other (List.mem_append_left _ member)
      rw [scanLeases_snoc, openLease_snoc, ← known]
      cases (recorded entry (by simp)).scanned with
      | intent q opens shuts intends step => simp [step, opens, shuts]
      | other opens shuts intends step => simp [step, opens, shuts]
      | active fenced hyphenated opens shuts intends step =>
          rw [step]
          by_cases own : leaseId = fenced.lease.leaseId
          · subst own
            simp [opens, shuts, eq_comm]
          · simp [AList.lookup_insert_ne own, opens, shuts, own]
      | shut closed opens shuts intends step =>
          rw [step]
          by_cases own : leaseId = closed
          · subst own
            simp [opens, shuts]
          · simp [AList.lookup_erase_ne own, opens, shuts, own]

/-- An open lease is kept under its own id, which has no colon. -/
theorem scan_active_id (recorded : ∀ entry ∈ entries, Recorded Input entry)
    {kept : String × FencedLease} (found : (scanLeases entries).active.lookup leaseId = some kept) :
    kept.2.lease.leaseId = leaseId ∧ ':' ∉ leaseId.toList := by
  induction entries using List.reverseRecOn with
  | nil => simp [scanLeases] at found
  | append_singleton entries entry ih =>
      have known := ih fun other member => recorded other (List.mem_append_left _ member)
      rw [scanLeases_snoc] at found
      cases (recorded entry (by simp)).scanned with
      | intent q opens shuts intends step => exact known (by simpa [step] using found)
      | other opens shuts intends step => exact known (by simpa [step] using found)
      | active fenced hyphenated opens shuts intends step =>
          rw [step] at found
          by_cases own : leaseId = fenced.lease.leaseId
          · subst own
            rw [AList.lookup_insert, Option.some.injEq] at found
            exact ⟨found ▸ rfl, hyphenated⟩
          · exact known (by rwa [AList.lookup_insert_ne own] at found)
      | shut closed opens shuts intends step =>
          rw [step] at found
          by_cases own : leaseId = closed
          · subst own
            rw [AList.lookup_erase] at found
            cases found
          · exact known (by rwa [AList.lookup_erase_ne own] at found)

/-- The last of the grants that are not ended is an open lease. -/
theorem openLease_of_lately
    (lately : Lately (fun entry => ∃ other, Opens leaseId other entry) (Shuts leaseId) entries) :
    ∃ workloadId, OpenLease entries leaseId workloadId := by
  induction entries using List.reverseRecOn with
  | nil => exact absurd lately (lately_nil _ _)
  | append_singleton entries last ih =>
      by_cases again : ∃ other, Opens leaseId other last
      · obtain ⟨other, opens⟩ := again
        exact ⟨other, (openLease_snoc ..).mpr (.inl opens)⟩
      · obtain ⟨unshut, earlier⟩ := ((lately_snoc ..).mp lately).resolve_left again
        obtain ⟨workloadId, still⟩ := ih earlier
        exact ⟨workloadId, (openLease_snoc ..).mpr
          (.inr ⟨fun clear => clear.elim unshut again, still⟩)⟩

/-- All leases are ended when none is open. -/
theorem allEnded_iff (entries : List Entry) :
    AllEnded entries ↔ ∀ leaseId workloadId, ¬ OpenLease entries leaseId workloadId := by
  constructor
  · rintro ended leaseId workloadId ⟨before, entry, after, split, opens, unclear⟩
    obtain ⟨closing, member, shuts⟩ := ended before entry after leaseId workloadId split opens
    exact unclear closing member (.inl shuts)
  · intro closed before entry after leaseId workloadId split opens
    by_contra unshut
    obtain ⟨other, still⟩ := openLease_of_lately ⟨before, entry, after, split,
      ⟨workloadId, opens⟩, fun later member shuts => unshut ⟨later, member, shuts⟩⟩
    exact closed leaseId other still

/-- Entries that journal no grant can only end an open lease. -/
theorem openLease_append {more : List Entry}
    (quiet : ∀ entry ∈ more, ∀ leaseId workloadId, ¬ Opens leaseId workloadId entry) :
    OpenLease (entries ++ more) leaseId workloadId ↔
      OpenLease entries leaseId workloadId ∧ ¬ ∃ entry ∈ more, Shuts leaseId entry := by
  induction more using List.reverseRecOn with
  | nil => simp
  | append_singleton more last ih =>
      have silent := quiet last (by simp)
      rw [← List.append_assoc, openLease_snoc,
        ih fun entry member => quiet entry (List.mem_append_left _ member)]
      simp only [silent, exists_false, or_false, false_or, List.mem_append, List.mem_singleton,
        or_and_right, exists_or, exists_eq_left, not_or]
      constructor
      · rintro ⟨unshut, still, quiet⟩
        exact ⟨still, quiet, unshut⟩
      · rintro ⟨still, quiet, unshut⟩
        exact ⟨unshut, still, quiet⟩

end Scan

/-! ### Revocation -/

/-- The keys of two revocations are as different as their leases. -/
theorem revokeKey_lease {operationId other leaseId leaseId' : String}
    (plain : ':' ∉ leaseId.toList) (plain' : ':' ∉ leaseId'.toList)
    (same : revokeKey operationId leaseId = revokeKey other leaseId') : leaseId = leaseId' := by
  have texts : ("operation:" ++ operationId ++ ":lease").toList ++ ':' :: leaseId.toList =
      ("operation:" ++ other ++ ":lease").toList ++ ':' :: leaseId'.toList := by
    have lists := congrArg String.toList same
    simp only [revokeKey, operationKey, String.toList_append] at lists ⊢
    refine (List.append_left_inj ":recovery-revoke".toList).mp ?_
    simpa using lists
  exact String.toList_inj.mp (split_last plain plain' texts).2

/-- An append that the storage takes. -/
theorem append_cases (w : World) (elapsed : Nat) (entry : Entry) {key : String}
    (keyed : entry.idempotencyKey = some key) :
    (key ∈ keysOf w.journal.entries ∧
      ((w.tick elapsed).append entry none).2.journal.entries = w.journal.entries) ∨
    (key ∉ keysOf w.journal.entries ∧ ∃ sequence now,
      ((w.tick elapsed).append entry none).2.journal.entries =
        w.journal.entries ++ [Journal.stamp sequence now entry]) := by
  rcases answer_append_cases (w := w) entry { elapsed } keyed with
    ⟨same, ⟨-, error, failed⟩ | ⟨-, used⟩⟩ | ⟨unused, sequence, now, longer, -⟩
  · cases failed
  · exact .inl ⟨used, congrArg Journal.entries same⟩
  · exact .inr ⟨unused, sequence, now, longer⟩

section Revocation

variable {pick : Call → World → Choice} {requests : AList (fun _ : String => OperationRequest)}

/-- The revocation of the first lease: one entry, which ends the lease. -/
theorem revokeLeases_cons (reliable : ∀ call w, (pick call w).storage = none) (w : World)
    {orphan : String × String × FencedLease} (rest : List (String × String × FencedLease))
    {r : OperationRequest} (found : requests.lookup orphan.2.1 = some r) :
    ∃ elapsed entry,
      (revokeLeases requests (orphan :: rest)).run.runWith kernel pick w =
        (revokeLeases requests rest).run.runWith kernel pick
          ((w.tick elapsed).append entry none).2 ∧
      entry.idempotencyKey = some (revokeKey r.operationId orphan.2.2.lease.leaseId) ∧
      ∀ sequence now, (∀ leaseId, Shuts leaseId (Journal.stamp sequence now entry) ↔
          leaseId = orphan.1) ∧
        ∀ leaseId workloadId, ¬ Opens leaseId workloadId (Journal.stamp sequence now entry) := by
  obtain ⟨elapsed, taken⟩ := append_runWith (w := w) reliable r .commit "ResourceLease" "REVOKED"
    (.leaseRevoked orphan.1 orphan.2.2.fencingToken
      "runtime recovery invalidated an orphaned lease")
    (revokeKey r.operationId orphan.2.2.lease.leaseId)
  refine ⟨elapsed, entryOf r .commit "ResourceLease" "REVOKED" (.leaseRevoked orphan.1
    orphan.2.2.fencingToken "runtime recovery invalidated an orphaned lease")
    (revokeKey r.operationId orphan.2.2.lease.leaseId), ?_, rfl, fun sequence now => ⟨?_, ?_⟩⟩
  · rw [revokeLeases, revokeLease, runWith_bindExcept]
    simp only [found, taken]
  · simp [Shuts, Journal.stamp, entryOf, Payload.leaseId?, eq_comm]
  · simp [Opens, Journal.stamp, entryOf]

/-- Each lease of the list is ended unless the key of its revocation is used. -/
theorem revokeLeases_shut (reliable : ∀ call w, (pick call w).storage = none)
    (orphans : List (String × String × FencedLease)) {w : World}
    (plain : ∀ orphan ∈ orphans, orphan.2.2.lease.leaseId = orphan.1 ∧ ':' ∉ orphan.1.toList)
    (distinct : (orphans.map (·.1)).Nodup) (revocable : Revocable requests orphans) :
    ∃ more, ((revokeLeases requests orphans).run.runWith kernel pick w).2.journal.entries =
        w.journal.entries ++ more ∧
      (∀ entry ∈ more, ∀ leaseId workloadId, ¬ Opens leaseId workloadId entry) ∧
      ∀ leaseId, (∃ entry ∈ more, Shuts leaseId entry) ↔
        ∃ orphan ∈ orphans, orphan.1 = leaseId ∧
          ∃ r, requests.lookup orphan.2.1 = some r ∧
            revokeKey r.operationId leaseId ∉ keysOf w.journal.entries := by
  induction orphans generalizing w with
  | nil => exact ⟨[], by simp [revokeLeases], by simp, by simp⟩
  | cons orphan rest ih =>
      obtain ⟨own, free⟩ := plain orphan (.head _)
      obtain ⟨r, found⟩ := Option.ne_none_iff_exists'.mp (revocable orphan (.head _))
      rw [List.map_cons, List.nodup_cons] at distinct
      obtain ⟨elapsed, entry, step, keyed, shape⟩ := revokeLeases_cons reliable w rest found
      obtain ⟨more, grown, quiet, shuts⟩ := ih (w := ((w.tick elapsed).append entry none).2)
        (fun other member => plain other (.tail _ member)) distinct.2
        (fun other member => revocable other (.tail _ member))
      have others : ∀ other ∈ rest, other.1 ≠ orphan.1 := fun other member same =>
        distinct.1 (List.mem_map.mpr ⟨other, member, same⟩)
      rw [own] at keyed
      rw [step, grown]
      rcases append_cases w elapsed entry keyed with ⟨used, same⟩ | ⟨unused, sequence, now, longer⟩
      · rw [same] at shuts ⊢
        refine ⟨more, rfl, quiet, fun leaseId => (shuts leaseId).trans ⟨?_, ?_⟩⟩
        · rintro ⟨other, member, shut⟩
          exact ⟨other, .tail _ member, shut⟩
        · rintro ⟨other, _ | ⟨_, member⟩, rfl, q, present, unused⟩
          · rw [found] at present
            cases present
            exact absurd used unused
          · exact ⟨other, member, rfl, q, present, unused⟩
      · rw [longer] at shuts ⊢
        obtain ⟨ends, opens⟩ := shape sequence now
        refine ⟨Journal.stamp sequence now entry :: more, by simp, ?_, fun leaseId => ?_⟩
        · rintro other (_ | ⟨_, member⟩)
          · exact opens
          · exact quiet other member
        · rw [List.exists_mem_cons_iff, List.exists_mem_cons_iff, ends, shuts, eq_comm]
          refine or_congr ⟨fun same => ⟨same, r, found, same ▸ unused⟩, And.left⟩ ?_
          refine exists_congr fun other => and_congr_right fun member => ?_
          refine and_congr_right fun named => exists_congr fun q => and_congr_right fun _ => ?_
          have apart : revokeKey q.operationId leaseId ≠ revokeKey r.operationId orphan.1 := by
            intro same
            have plainly := (plain other (.tail _ member)).2
            rw [named] at plainly
            exact others other member (named.trans (revokeKey_lease plainly free same))
          rw [keysOf_snoc _ (Journal.stamp sequence now entry) _ keyed]
          simp [apart]

/-- Revocation stops at the first lease whose workload has no intent. -/
theorem revokeLeases_missing (reliable : ∀ call w, (pick call w).storage = none)
    (orphans : List (String × String × FencedLease)) {w : World}
    (stuck : ¬ Revocable requests orphans) :
    ∃ leaseId, ((revokeLeases requests orphans).run.runWith kernel pick w).1 =
      .error (missingIntent leaseId) := by
  induction orphans generalizing w with
  | nil => exact absurd (fun _ member => by cases member) stuck
  | cons orphan rest ih =>
      cases found : requests.lookup orphan.2.1 with
      | none =>
          refine ⟨orphan.1, ?_⟩
          rw [revokeLeases, revokeLease, runWith_bindExcept]
          simp only [found]
          rfl
      | some r =>
          obtain ⟨elapsed, entry, step, -⟩ := revokeLeases_cons reliable w rest found
          rw [step]
          refine ih fun revocable => stuck ?_
          rintro other (_ | ⟨_, member⟩)
          · simp [found]
          · exact revocable other member

end Revocation

/-- Each open lease has a journaled intent of its workload, and the key of its
revocation is free. -/
def Revivable (entries : List Entry) : Prop :=
  ∀ leaseId workloadId, OpenLease entries leaseId workloadId →
    ∃ r, LastIntent entries workloadId r ∧ revokeKey r.operationId leaseId ∉ keysOf entries

theorem mem_orphans {scan : LeaseScan} {orphan : String × String × FencedLease} :
    orphan ∈ scan.orphans ↔ scan.active.lookup orphan.1 = some orphan.2 := by
  rw [LeaseScan.orphans, List.mem_map]
  constructor
  · rintro ⟨entry, member, rfl⟩
    exact AList.mem_lookup_iff.mpr member
  · exact fun found => ⟨⟨orphan.1, orphan.2⟩, AList.mem_lookup_iff.mp found, rfl⟩

section Crash

variable {w : World} {pick : Call → World → Choice}

/-- After the revocation of leases that all have an intent, the open ones are
those whose key was used. -/
theorem revokeLeases_allEnded (genuine : Genuine w)
    (reliable : ∀ call w, (pick call w).storage = none) (order : MapOrder) {later : World}
    (same : later.journal = w.journal)
    (revocable : Revocable (scanLeases w.journal.entries).requests
      (scanLeases w.journal.entries).orphans) :
    AllEnded ((revokeLeases (scanLeases w.journal.entries).requests
        (order.leases (scanLeases w.journal.entries).orphans)).run.runWith kernel pick
          later).2.journal.entries ↔ Revivable w.journal.entries := by
  have perm := order.leasesPerm (scanLeases w.journal.entries).orphans
  have distinct : ((order.leases (scanLeases w.journal.entries).orphans).map (·.1)).Nodup := by
    rw [(perm.map _).nodup_iff]
    have keys := (scanLeases w.journal.entries).active.nodupKeys
    rw [LeaseScan.orphans, List.map_map]
    exact keys
  obtain ⟨more, grown, quiet, shuts⟩ := revokeLeases_shut reliable
    (order.leases (scanLeases w.journal.entries).orphans) (w := later)
    (fun orphan member => scan_active_id genuine (mem_orphans.mp (perm.mem_iff.mp member)))
    distinct (fun orphan member => revocable orphan (perm.mem_iff.mp member))
  rw [grown, same, allEnded_iff]
  refine forall_congr' fun leaseId => forall_congr' fun workloadId => ?_
  rw [openLease_append quiet, shuts, same, not_and_not_right]
  refine imp_congr_right fun still => ?_
  obtain ⟨fenced, kept⟩ := (scan_active_iff genuine).mpr still
  constructor
  · rintro ⟨orphan, member, rfl, r, found, unused⟩
    have stored := mem_orphans.mp (perm.mem_iff.mp member)
    rw [kept, Option.some.injEq] at stored
    rw [← stored] at found
    exact ⟨r, (scan_requests_iff genuine r).mp found, unused⟩
  · rintro ⟨r, last, unused⟩
    exact ⟨(leaseId, workloadId, fenced), perm.mem_iff.mpr (mem_orphans.mpr kept), rfl, r,
      (scan_requests_iff genuine r).mpr last, unused⟩

/-- After a crash of any executions, at any moment, revocation survives and ends
every lease exactly when each open lease has an intent and a free key. -/
theorem orphans_revoked_iff (served : Served w)
    (reliable : ∀ call v, (pick call v).storage = none) (order : MapOrder) :
    let ending := (revokeOrphanedLeases order).run.runWith kernel pick w.restart
    ((∀ leaseId, ending.1 ≠ .error (missingIntent leaseId)) ∧
      (ending.1 = .ok () → AllEnded ending.2.journal.entries)) ↔ Revivable w.journal.entries := by
  intro ending
  have genuine := served.genuine
  obtain ⟨elapsed, read⟩ := readFrom_runWith (w := w.restart) reliable
  have unfolded : ending = (revokeLeases (scanLeases w.journal.entries).requests
      (order.leases (scanLeases w.journal.entries).orphans)).run.runWith kernel pick
        (w.restart.tick elapsed) := by
    simp only [ending, revokeOrphanedLeases, runWith_bindExcept, read]
    rfl
  have fine := (revokeLeases_runWith (w := w.restart.tick elapsed) reliable
    (scanLeases w.journal.entries).requests
    (order.leases (scanLeases w.journal.entries).orphans)).2
  have same : Revocable (scanLeases w.journal.entries).requests
        (order.leases (scanLeases w.journal.entries).orphans) ↔
      Revocable (scanLeases w.journal.entries).requests
        (scanLeases w.journal.entries).orphans := by
    simp only [Revocable, (order.leasesPerm _).mem_iff]
  rw [unfolded]
  by_cases revocable : Revocable (scanLeases w.journal.entries).requests
      (scanLeases w.journal.entries).orphans
  · rw [fine.mpr (same.mpr revocable)]
    simp only [ne_eq, reduceCtorEq, not_false_eq_true, implies_true, true_and, forall_const]
    exact revokeLeases_allEnded genuine reliable order rfl revocable
  · obtain ⟨leaseId, failed⟩ := revokeLeases_missing (w := w.restart.tick elapsed) reliable _
      fun holds => revocable (same.mp holds)
    refine ⟨fun survives => absurd failed (survives.1 leaseId), fun revivable => ?_⟩
    refine absurd (fun orphan member => ?_) revocable
    obtain ⟨r, last, -⟩ := revivable orphan.1 orphan.2.1
      ((scan_active_iff genuine).mp ⟨orphan.2.2, mem_orphans.mp member⟩)
    simp [(scan_requests_iff genuine r).mpr last]

end Crash

/-! ### Two crashes -/

/-- The maps of the scan show that every open lease can be revoked. -/
def revivable (entries : List Entry) : Bool :=
  (scanLeases entries).orphans.all fun orphan =>
    match (scanLeases entries).requests.lookup orphan.2.1 with
    | some r => decide (revokeKey r.operationId orphan.1 ∉ keysOf entries)
    | none => false

theorem revivable_sound {w : World} (genuine : Genuine w)
    (shown : revivable w.journal.entries = true) : Revivable w.journal.entries := by
  intro leaseId workloadId still
  obtain ⟨fenced, kept⟩ := (scan_active_iff genuine).mpr still
  have free := List.all_eq_true.mp shown (leaseId, workloadId, fenced) (mem_orphans.mpr kept)
  cases found : (scanLeases w.journal.entries).requests.lookup workloadId with
  | none => simp [found] at free
  | some r =>
      simp only [found, decide_eq_true_eq] at free
      exact ⟨r, (scan_requests_iff genuine r).mp found, free⟩

/-- One execution, and a crash after this many calls. -/
def crashedAfter (calls : Nat) : World :=
  ((executions [sampleRequest "operation-1" "workload-1" "revision-1" .idempotent]
    (.boot sampleUuids 0)).run kernel
      (List.replicate calls (0, answering (sampleReceipt "operation-1" "first")))).world

theorem crashedAfter_served (calls : Nat) : Served (crashedAfter calls) :=
  .executions (.boot sampleUuids 0) _ _

/-- A crash right after the operation intent. -/
theorem orphans_revoked_intended :
    (∃ entry ∈ (crashedAfter 14).journal.entries, entry.newPhase = "ACTIVE") ∧
    let ending := (revokeOrphanedLeases .inserted).run.runWith kernel (fun _ _ => failing)
      (crashedAfter 14).restart
    (∀ leaseId, ending.1 ≠ .error (missingIntent leaseId)) ∧
      (ending.1 = .ok () → AllEnded ending.2.journal.entries) := by
  refine ⟨by decide +kernel, ?_⟩
  exact (orphans_revoked_iff (crashedAfter_served 14) (fun _ _ => rfl) .inserted).mpr
    (revivable_sound (crashedAfter_served 14).genuine (by decide +kernel))

/-- A crash between the journaled grant and the operation intent. -/
theorem orphans_unrevoked :
    ¬ ∀ w, Served w → ∀ pick : Call → World → Choice, (∀ call v, (pick call v).storage = none) →
      ∀ order,
        let ending := (revokeOrphanedLeases order).run.runWith kernel pick w.restart
        (∀ leaseId, ending.1 ≠ .error (missingIntent leaseId)) ∧
          (ending.1 = .ok () → AllEnded ending.2.journal.entries) := by
  intro revokes
  have survives := revokes (crashedAfter 7) (crashedAfter_served 7) (fun _ _ => failing)
    (fun _ _ => rfl) .inserted
  exact survives.1 "a" (by decide +kernel)

end NousKernel
