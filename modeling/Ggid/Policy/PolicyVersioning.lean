import Ggid.Go.Bytes
import Ggid.Lib.Run

/-!
# Policy engine — versions of a policy

Every policy has a list of versions. A new version is a draft; a rollback makes a version active
again and appends one more version, which it marks active too.

* `pvID_injective`    — no two numbers are printed alike;
* `numbered_states`   — numbers and identifiers are right in every run;
* `versions_kept_iff` — the rest is, as long as no rollback finds the version it names.
-/

namespace Ggid.Policy

open Ggid.Go Ggid.Lib

-- ---------------------------------------------------------------------------
-- Identifiers
-- ---------------------------------------------------------------------------

/-- The loop of `pvID`: each turn puts a digit in front. A number has at most as many digits as
its value. -/
def pvDigits : Nat → Nat → List Char → List Char
  | 0, _, buf => buf
  | turns + 1, n, buf => if n = 0 then buf else pvDigits turns (n / 16) (hexDigit (n % 16) :: buf)

def pvID (n : Nat) : String :=
  if n = 0 then "pv_0" else "pv_" ++ String.ofList (pvDigits n n [])

/-- What the printed digits are worth. -/
def pvValue (digits : List Char) : Nat :=
  digits.foldl (fun value ch => 16 * value + digitValue (UInt8.ofNat ch.toNat)) 0

theorem pvValue_pvDigits {turns n : Nat} (h : n ≤ turns) (buf : List Char) :
    pvValue (pvDigits turns n buf) =
      buf.foldl (fun value ch => 16 * value + digitValue (UInt8.ofNat ch.toNat)) n := by
  induction turns generalizing n buf with
  | zero =>
    obtain rfl : n = 0 := by omega
    rfl
  | succ turns ih =>
    rw [pvDigits]
    split_ifs with hzero
    · rw [hzero]
      rfl
    · have hdigit : digitValue (UInt8.ofNat (hexDigit (n % 16)).toNat) = n % 16 :=
        digitValue_digitByte _ (Nat.mod_lt _ (by decide))
      rw [ih (by omega), List.foldl_cons, hdigit, Nat.div_add_mod]

theorem pvID_of_pos {n : Nat} (h : 0 < n) : pvID n = "pv_" ++ String.ofList (pvDigits n n []) :=
  if_neg (by omega)

/-- The printed number can be read. -/
theorem pvID_injective {n m : Nat} (hn : 0 < n) (hm : 0 < m) (h : pvID n = pvID m) : n = m := by
  rw [pvID_of_pos hn, pvID_of_pos hm, ← String.toList_inj] at h
  simp only [String.toList_append, String.toList_ofList] at h
  calc n = pvValue (pvDigits n n []) := (pvValue_pvDigits (le_refl n) []).symm
    _ = pvValue (pvDigits m m []) := congrArg pvValue (List.append_cancel_left h)
    _ = m := pvValue_pvDigits (le_refl m) []

-- ---------------------------------------------------------------------------
-- Versions
-- ---------------------------------------------------------------------------

inductive PolicyVersionStatus where
  | draft | active | archived | rolledBack
  deriving DecidableEq

structure PolicyVersion where
  versionID     : String
  policyID      : String
  versionNumber : Nat
  status        : PolicyVersionStatus
  diff          : String
  createdBy     : String
  createdAt     : Time
  deriving DecidableEq

structure PolicyVersioningService where
  versions : String → List PolicyVersion
  seq      : Nat

namespace PolicyVersioningService

def new : PolicyVersioningService := ⟨fun _ => [], 0⟩

def setVersions (s : PolicyVersioningService) (policyID : String) (versions : List PolicyVersion) :
    PolicyVersioningService :=
  { s with versions := Function.update s.versions policyID versions }

def createVersion (s : PolicyVersioningService) (policyID createdBy diff : String) (now : Time) :
    PolicyVersioningService × PolicyVersion :=
  let s := { s with seq := s.seq + 1 }
  let v : PolicyVersion := ⟨pvID s.seq, policyID, (s.versions policyID).length + 1, .draft, diff,
    createdBy, now⟩
  (s.setVersions policyID (s.versions policyID ++ [v]), v)

def getVersion (s : PolicyVersioningService) (policyID versionID : String) :
    Option PolicyVersion :=
  (s.versions policyID).find? fun v => v.versionID = versionID

/-- What becomes of a version when another is made active. -/
def archive (v : PolicyVersion) : PolicyVersion :=
  if v.status = .active then { v with status := .archived } else v

def activate (v : PolicyVersion) : PolicyVersion := { v with status := .active }

/-- No version stands for `nil, nil`. -/
def rollbackVersion (s : PolicyVersioningService) (policyID versionID : String) (now : Time) :
    PolicyVersioningService × Option PolicyVersion :=
  match (s.versions policyID).findIdx? fun v => v.versionID = versionID with
  | none => (s, none)
  | some target =>
    let versions := ((s.versions policyID).map archive).modify target activate
    let s := { s with seq := s.seq + 1 }
    let rollback : PolicyVersion := ⟨pvID s.seq, policyID, versions.length + 1, .active,
      "rollback to v" ++ versionID, "system", now⟩
    (s.setVersions policyID (versions ++ [rollback]), some rollback)

-- ---------------------------------------------------------------------------
-- Runs
-- ---------------------------------------------------------------------------

inductive VersionCall where
  | createVersion (policyID createdBy diff : String) (now : Time)
  | rollbackVersion (policyID versionID : String) (now : Time)

def step (s : PolicyVersioningService) : VersionCall → PolicyVersioningService
  | .createVersion policyID createdBy diff now => (s.createVersion policyID createdBy diff now).1
  | .rollbackVersion policyID versionID now => (s.rollbackVersion policyID versionID now).1

/-- The versions that are in force. -/
def active (s : PolicyVersioningService) (policyID : String) : List PolicyVersion :=
  (s.versions policyID).filter fun v => v.status = .active

/-- Versions are numbered as they are listed, and no identifier is there twice. -/
structure Numbered (s : PolicyVersioningService) : Prop where
  numbers : ∀ p, (s.versions p).map PolicyVersion.versionNumber =
    List.range' 1 (s.versions p).length
  ids     : ∀ p, ((s.versions p).map PolicyVersion.versionID).Nodup
  apart   : ∀ p q, p ≠ q → ∀ v ∈ s.versions p, ∀ w ∈ s.versions q, v.versionID ≠ w.versionID

/-- At every point one version of a policy is active at most; a rollback that succeeds leaves one,
with the content of the version it names. -/
structure Kept (s : PolicyVersioningService) (call : VersionCall) : Prop where
  numbered : Numbered (step s call)
  active   : ∀ p, ((step s call).active p).length ≤ 1
  content  : ∀ policyID versionID now, call = .rollbackVersion policyID versionID now →
    (s.rollbackVersion policyID versionID now).2.isSome →
      ∃ v target, (step s call).active policyID = [v] ∧
        s.getVersion policyID versionID = some target ∧ v.diff = target.diff

/-- A rollback names no version that is there. -/
def FindsNone (s : PolicyVersioningService) : VersionCall → Prop
  | .createVersion .. => True
  | .rollbackVersion policyID versionID _ => s.getVersion policyID versionID = none

-- ---------------------------------------------------------------------------
-- What a call does
-- ---------------------------------------------------------------------------

/-- What a version keeps, whatever becomes of its status. -/
def label (v : PolicyVersion) : String × Nat := (v.versionID, v.versionNumber)

/-- One policy has one more version; no label changed. -/
structure Appended (s s' : PolicyVersioningService) (policyID : String) : Prop where
  seq    : s'.seq = s.seq + 1
  others : ∀ p, p ≠ policyID → s'.versions p = s.versions p
  labels : (s'.versions policyID).map label =
    (s.versions policyID).map label ++ [(pvID (s.seq + 1), (s.versions policyID).length + 1)]

variable {s s' : PolicyVersioningService} {call : VersionCall} {policyID versionID : String}
  {now : Time}

theorem label_archive (v : PolicyVersion) : label (archive v) = label v := by
  unfold archive
  split_ifs
  · rfl
  · rfl

theorem map_label_modify (versions : List PolicyVersion) (target : Nat) :
    (versions.modify target activate).map label = versions.map label := by
  induction versions generalizing target with
  | nil => cases target <;> rfl
  | cons v versions ih =>
    cases target with
    | zero => rfl
    | succ target => rw [List.modify_succ_cons, List.map_cons, ih, List.map_cons]

theorem findIdx_eq_none_iff :
    ((s.versions policyID).findIdx? fun v => v.versionID = versionID) = none ↔
      s.getVersion policyID versionID = none := by
  rw [List.findIdx?_eq_none_iff, getVersion, List.find?_eq_none]
  simp

/-- A rollback that finds nothing does nothing. -/
theorem rollbackVersion_of_none (h : s.getVersion policyID versionID = none) :
    s.rollbackVersion policyID versionID now = (s, none) := by
  rw [rollbackVersion, findIdx_eq_none_iff.mpr h]

/-- The versions after a rollback that finds one. -/
theorem rollbackVersion_of_some (now : Time) (h : s.getVersion policyID versionID ≠ none) :
    ∃ target < (s.versions policyID).length,
      ((s.rollbackVersion policyID versionID now).1.versions policyID =
        ((s.versions policyID).map archive).modify target activate ++
          [⟨pvID (s.seq + 1), policyID, (s.versions policyID).length + 1, .active,
            "rollback to v" ++ versionID, "system", now⟩]) ∧
      (s.rollbackVersion policyID versionID now).1.seq = s.seq + 1 ∧
      ∀ p, p ≠ policyID →
        (s.rollbackVersion policyID versionID now).1.versions p = s.versions p := by
  cases hfind : (s.versions policyID).findIdx? fun v => v.versionID = versionID with
  | none => exact absurd (findIdx_eq_none_iff.mp hfind) h
  | some target =>
    refine ⟨target, (List.findIdx?_eq_some_iff_getElem.mp hfind).1, ?_, ?_, fun p hp => ?_⟩
    · simp [rollbackVersion, hfind, setVersions]
    · simp [rollbackVersion, hfind, setVersions]
    · simp [rollbackVersion, hfind, setVersions, hp]

/-- **A call** changes nothing, or gives one policy one more version. -/
theorem step_cases (s : PolicyVersioningService) (call : VersionCall) :
    step s call = s ∨ ∃ policyID, Appended s (step s call) policyID := by
  cases call with
  | createVersion policyID createdBy diff now =>
    refine .inr ⟨policyID, rfl, fun p hp => ?_, ?_⟩
    · simp [step, createVersion, setVersions, hp]
    · simp [step, createVersion, setVersions, label]
  | rollbackVersion policyID versionID now =>
    by_cases h : s.getVersion policyID versionID = none
    · exact .inl (by rw [step, rollbackVersion_of_none h])
    · obtain ⟨target, -, hversions, hseq, hothers⟩ := rollbackVersion_of_some now h
      refine .inr ⟨policyID, hseq, hothers, ?_⟩
      rw [step, hversions, List.map_append, map_label_modify, List.map_map]
      congr 1
      exact List.map_congr_left fun v _ => label_archive v

-- ---------------------------------------------------------------------------
-- Numbers and identifiers
-- ---------------------------------------------------------------------------

/-- Versions are numbered, by identifiers that were issued. -/
structure Issued (s : PolicyVersioningService) : Prop where
  numbered : Numbered s
  issued   : ∀ p, ∀ v ∈ s.versions p, ∃ k, 0 < k ∧ k ≤ s.seq ∧ v.versionID = pvID k

theorem numbers_eq (versions : List PolicyVersion) :
    versions.map PolicyVersion.versionNumber = (versions.map label).map Prod.snd := by
  rw [List.map_map]
  rfl

theorem ids_eq (versions : List PolicyVersion) :
    versions.map PolicyVersion.versionID = (versions.map label).map Prod.fst := by
  rw [List.map_map]
  rfl

theorem issued_new : Issued new where
  numbered := ⟨fun _ => rfl, fun _ => List.nodup_nil, fun _ _ _ v hv => absurd hv (by simp [new])⟩
  issued := fun _ v hv => absurd hv (by simp [new])

/-- An identifier is old, or the one that was issued last. -/
theorem Appended.issued (h : Appended s s' policyID) {p : String} {v : PolicyVersion}
    (hv : v ∈ s'.versions p) :
    (∃ w ∈ s.versions p, w.versionID = v.versionID) ∨
      p = policyID ∧ v.versionID = pvID (s.seq + 1) := by
  by_cases hp : p = policyID
  · subst hp
    have hlabel : label v ∈ (s'.versions p).map label := List.mem_map_of_mem hv
    rw [h.labels, List.mem_append, List.mem_singleton] at hlabel
    rcases hlabel with hold | hnew
    · obtain ⟨w, hw, heq⟩ := List.mem_map.mp hold
      exact .inl ⟨w, hw, congrArg Prod.fst heq⟩
    · exact .inr ⟨rfl, congrArg Prod.fst hnew⟩
  · rw [h.others p hp] at hv
    exact .inl ⟨v, hv, rfl⟩

/-- The next identifier is new. -/
theorem Issued.fresh (hs : Issued s) {p : String} {v : PolicyVersion} (hv : v ∈ s.versions p) :
    v.versionID ≠ pvID (s.seq + 1) := by
  obtain ⟨k, hpos, hle, hid⟩ := hs.issued p v hv
  intro heq
  have hk := pvID_injective hpos (Nat.succ_pos _) (hid.symm.trans heq)
  omega

theorem Appended.numbered (h : Appended s s' policyID) (hs : Issued s) : Numbered s' where
  numbers := fun p => by
    by_cases hp : p = policyID
    · subst hp
      have hlength := congrArg List.length h.labels
      rw [List.length_append, List.length_map, List.length_map, List.length_singleton] at hlength
      rw [numbers_eq, h.labels, List.map_append, ← numbers_eq, hs.numbered.numbers, hlength,
        List.range'_1_concat, Nat.add_comm 1]
      rfl
    · rw [h.others p hp]
      exact hs.numbered.numbers p
  ids := fun p => by
    by_cases hp : p = policyID
    · subst hp
      rw [ids_eq, h.labels, List.map_append, ← ids_eq, List.map_singleton, List.nodup_append]
      refine ⟨hs.numbered.ids p, List.nodup_singleton _, fun id hid id' hid' heq => ?_⟩
      obtain ⟨v, hv, rfl⟩ := List.mem_map.mp hid
      exact hs.fresh hv (heq.trans (List.mem_singleton.mp hid'))
    · rw [h.others p hp]
      exact hs.numbered.ids p
  apart := fun p q hpq v hv w hw heq => by
    rcases h.issued hv with ⟨v', hv', hid⟩ | ⟨rfl, hid⟩
    · rcases h.issued hw with ⟨w', hw', hid'⟩ | ⟨rfl, hid'⟩
      · exact hs.numbered.apart p q hpq v' hv' w' hw' (by rw [hid, heq, hid'])
      · exact hs.fresh hv' (by rw [hid, heq, hid'])
    · rcases h.issued hw with ⟨w', hw', hid'⟩ | ⟨rfl, hid'⟩
      · exact hs.fresh hw' (by rw [hid', ← heq, hid])
      · exact hpq rfl

theorem Issued.step (hs : Issued s) (call : VersionCall) : Issued (step s call) := by
  rcases step_cases s call with hsame | ⟨policyID, happended⟩
  · rw [hsame]
    exact hs
  · refine ⟨happended.numbered hs, fun p v hv => ?_⟩
    rcases happended.issued hv with ⟨w, hw, hid⟩ | ⟨-, hid⟩
    · obtain ⟨k, hpos, hle, hk⟩ := hs.issued p w hw
      exact ⟨k, hpos, by rw [happended.seq]; omega, hid.symm.trans hk⟩
    · exact ⟨s.seq + 1, Nat.succ_pos _, happended.seq.ge, hid⟩

/-- **Numbers and identifiers** are right in every run. -/
theorem numbered_states (calls : List VersionCall) : ∀ s ∈ states step new calls, Numbered s := by
  have hstep : ∀ s call, Issued s → Issued (step s call) := fun _ call hs => hs.step call
  exact fun s hs => (invariant_states_of_step hstep issued_new s hs).numbered

-- ---------------------------------------------------------------------------
-- Active versions
-- ---------------------------------------------------------------------------

/-- A rollback that succeeds leaves two versions active, the old one and the new one. -/
theorem two_active (now : Time) (h : s.getVersion policyID versionID ≠ none) :
    2 ≤ ((step s (.rollbackVersion policyID versionID now)).active policyID).length := by
  obtain ⟨target, htarget, hversions, -⟩ := rollbackVersion_of_some now h
  have hmem : ((((s.versions policyID).map archive).modify target activate).filter
      fun v => v.status = .active) ≠ [] := by
    apply List.ne_nil_of_mem (a := activate (archive (s.versions policyID)[target]))
    rw [List.mem_filter]
    refine ⟨?_, by simp [activate]⟩
    rw [List.mem_iff_getElem]
    exact ⟨target, by simpa using htarget, by simp⟩
  have hpos := List.length_pos_iff.mpr hmem
  rw [active, step, hversions, List.filter_append, List.length_append]
  simp only [List.filter_cons, decide_true, if_true, List.filter_nil, List.length_singleton]
  omega

/-- Nothing is active yet. -/
theorem active_step (hnone : ∀ p, s.active p = []) (hfinds : FindsNone s call) (p : String) :
    (step s call).active p = [] := by
  cases call with
  | createVersion policyID createdBy diff now =>
    by_cases hp : p = policyID
    · subst hp
      have hold : (s.versions p).filter (fun v => v.status = .active) = [] := hnone p
      simp [active, step, createVersion, setVersions, hold]
    · have hsame := hnone p
      simpa [active, step, createVersion, setVersions, hp] using hsame
  | rollbackVersion policyID versionID now =>
    rw [step, rollbackVersion_of_none hfinds]
    exact hnone p

theorem findsNone_of_kept (h : Kept s call) : FindsNone s call := by
  cases call with
  | createVersion policyID createdBy diff now => trivial
  | rollbackVersion policyID versionID now =>
    by_contra hfinds
    have htwo := two_active now hfinds
    have hone := h.active policyID
    omega

theorem kept_of_findsNone (hs : Issued s) (hnone : ∀ p, s.active p = [])
    (hfinds : FindsNone s call) : Kept s call where
  numbered := (hs.step call).numbered
  active := fun p => by
    rw [active_step hnone hfinds p]
    exact Nat.zero_le 1
  content := by
    rintro policyID versionID now rfl hsome
    rw [rollbackVersion_of_none hfinds] at hsome
    cases hsome

/-- **The laws of versions** hold throughout a run exactly if no rollback of it succeeds. -/
theorem versions_kept_iff (calls : List VersionCall) :
    StepsOk step Kept new calls ↔ StepsOk step FindsNone new calls := by
  refine ⟨stepsOk_mono fun s call => findsNone_of_kept, fun h => ?_⟩
  have hstep : ∀ s call, (Issued s ∧ ∀ p, s.active p = []) → FindsNone s call →
      (Issued (step s call) ∧ ∀ p, (step s call).active p = []) :=
    fun s call hs hfinds => ⟨hs.1.step call, active_step hs.2 hfinds⟩
  have hkept : ∀ s call, (Issued s ∧ ∀ p, s.active p = []) → FindsNone s call → Kept s call :=
    fun s call hs hfinds => kept_of_findsNone hs.1 hs.2 hfinds
  exact stepsOk_of_invariant hstep hkept ⟨issued_new, fun _ => rfl⟩ h

/-- Two drafts, and a rollback to the first. -/
theorem rollback_leaves_two :
    ¬ StepsOk step Kept new [.createVersion "p" "alice" "allow read" 0,
      .createVersion "p" "alice" "allow write" 1, .rollbackVersion "p" "pv_1" 2] := by
  intro h
  have hlast := h.2.2.1.active "p"
  exact absurd hlast (by decide)

end PolicyVersioningService

end Ggid.Policy
