import DyData.ProjectionRoundTrip

/-!
A campaign of rounds, each of which rebuilds one month over the head, publishes it, compacts it
and publishes the compaction.  Nothing in the builders or publishers stops it before the head
can no longer be read.
-/

namespace DyData.Projection

open Relational List
open DyData.HeavyQueue (JobRun)

variable {k j : Nat} {c d : Char}

def stamp (c d : Char) (k : Nat) : String :=
  String.ofList (replicate k c ++ replicate (64 - k) d)

def lineageId (k : Nat) : String := stamp 'a' '0' k

def compactFingerprint (k : Nat) : String := stamp 'b' 'c' k

def compactIdOf (k : Nat) : String := "settlement-compact:" ++ compactFingerprint k

def headIdOf : Nat → String
  | 0 => "legacy-root"
  | k + 1 => compactIdOf k

def hexDigest (c : Char) : String := stamp c c 64

def recolour (base : String) : String := compactFingerprint (min 64 (base.toList.count 'a'))

section Stamps

theorem toList_stamp (c d : Char) (k : Nat) :
    (stamp c d k).toList = replicate k c ++ replicate (64 - k) d :=
  String.toList_ofList

theorem length_stamp (c d : Char) (hk : k ≤ 64) : (stamp c d k).length = 64 := by
  rw [← String.length_toList, toList_stamp, length_append, length_replicate, length_replicate]
  omega

theorem mem_stamp {x : Char} (hx : x ∈ (stamp c d k).toList) : x = c ∨ x = d := by
  rw [toList_stamp, mem_append, mem_replicate, mem_replicate] at hx
  rcases hx with ⟨-, rfl⟩ | ⟨-, rfl⟩
  · exact .inl rfl
  · exact .inr rfl

theorem stamp_injective (hcd : d ≠ c) (h : stamp c d j = stamp c d k) : j = k := by
  have hcnt : ∀ n, (stamp c d n).toList.count c = n := by
    intro n
    rw [toList_stamp, count_append, count_replicate_self,
      count_eq_zero.mpr fun hmem => hcd (mem_replicate.mp hmem).2.symm, Nat.add_zero]
  rw [← hcnt j, h, hcnt k]

theorem stamp_ne {c' d' : Char} (h : c ≠ c' ∧ c ≠ d' ∧ d ≠ c' ∧ d ≠ d') (hj : j ≤ 64) :
    stamp c d j ≠ stamp c' d' k := by
  intro hsame
  obtain ⟨x, hx⟩ : ∃ x, x ∈ (stamp c d j).toList := by
    refine exists_mem_of_length_pos ?_
    rw [String.length_toList, length_stamp c d hj]
    decide
  have hx' := hx
  rw [hsame] at hx'
  rcases mem_stamp hx with rfl | rfl <;> rcases mem_stamp hx' with he | he
  · exact h.1 he
  · exact h.2.1 he
  · exact h.2.2.1 he
  · exact h.2.2.2 he

theorem isLowerHex64_stamp (hk : k ≤ 64)
    (hc : (('0' ≤ c && c ≤ '9') || ('a' ≤ c && c ≤ 'f')) = true)
    (hd : (('0' ≤ d && d ≤ '9') || ('a' ≤ d && d ≤ 'f')) = true) :
    isLowerHex64 (stamp c d k) = true := by
  unfold isLowerHex64
  rw [length_stamp c d hk, decide_eq_true rfl, Bool.true_and, all_eq_true]
  intro x hx
  rcases mem_stamp hx with rfl | rfl
  · exact hc
  · exact hd

theorem identity_ok {label value : String} (hne : value ≠ "")
    (h : ∀ c ∈ value.toList, PythonText.isSpace c = false) : identity label value = .ok value := by
  unfold identity
  rw [PythonText.strip_of_all h]
  simpa using hne

theorem digest_ok {label value : String} (h : isLowerHex64 value = true) :
    digest label value = .ok value := by
  rw [digest, if_pos h]

theorem count_stamp (hcd : d ≠ c) (k : Nat) : (stamp c d k).toList.count c = k := by
  rw [toList_stamp, count_append, count_replicate_self,
    count_eq_zero.mpr fun hmem => hcd (mem_replicate.mp hmem).2.symm, Nat.add_zero]

theorem recolour_lineageId (hk : k ≤ 64) : recolour (lineageId k) = compactFingerprint k := by
  rw [recolour, lineageId, count_stamp (by decide), Nat.min_eq_right hk]

theorem stamp_ne_empty (c d : Char) (hk : k ≤ 64) : stamp c d k ≠ "" := by
  intro he
  have hlen := length_stamp c d hk
  rw [he] at hlen
  exact absurd hlen (by decide)

theorem compactIdOf_injective (h : compactIdOf j = compactIdOf k) : j = k :=
  stamp_injective (by decide) (String.append_right_inj _ |>.mp h)

theorem length_compactIdOf (hk : k ≤ 64) : 64 < (compactIdOf k).length := by
  have hpref : 0 < "settlement-compact:".length := by decide
  have hrest : (compactFingerprint k).length = 64 := length_stamp _ _ hk
  unfold compactIdOf
  rw [String.length_append, hrest]
  exact Nat.lt_add_of_pos_left hpref

theorem compactIdOf_ne_stamp (hj : j ≤ 64) (hk : k ≤ 64) : compactIdOf j ≠ stamp c d k := by
  intro he
  have hlong := length_compactIdOf hj
  rw [he, length_stamp c d hk] at hlong
  exact Nat.lt_irrefl 64 hlong

end Stamps

def campaignDigests : Digests where
  manifestChecksum _ := hexDigest 'f'
  compactionChecksum _ := hexDigest 'f'
  provenanceChecksum _ := hexDigest 'f'
  compactionFingerprint base _ _ _ := recolour base
  lastKey _ key := key
  manifestChecksum_hex _ := isLowerHex64_stamp (Nat.le_refl 64) (by decide) (by decide)
  compactionChecksum_hex _ := isLowerHex64_stamp (Nat.le_refl 64) (by decide) (by decide)
  compactionFingerprint_hex _ _ _ _ :=
    isLowerHex64_stamp (Nat.min_le_left 64 _) (by decide) (by decide)

def campaignProtocol : Protocol := ⟨campaignDigests, id⟩

def campaignMonth : String := "2026-01"

def rebuildJob : JobRun :=
  { jobId := "rebuild", jobName := "settlement_rebuild", status := .running
    claimToken := some "claim", leaseExpiresAt := some 100 }

def compactionJob : JobRun :=
  { jobId := "compaction", jobName := "settlement_compaction", status := .running
    claimToken := some "claim", leaseExpiresAt := some 100 }

def legacyRoot : Generation :=
  { generationId := headIdOf 0
    generationKind := .legacyRoot
    state := .published
    inputFingerprint := hexDigest 'e'
    manifestChecksum := some (hexDigest 'f')
    kindCheck := kindBaseDepth_legacyRoot }

/-- A certified legacy head without partitions of its own, and two jobs that hold a claim. -/
def campaignStart : Db where
  generations := ⟨[legacyRoot], nodup_singleton _⟩
  active := some (some (headIdOf 0))
  manifests := .empty
  closure := .empty
  overlays := []
  jobs := ⟨[rebuildJob, compactionJob], by decide⟩
  events := []
  fingerprints := nodup_singleton _

def emptyMonth : PartitionBuild where
  artifact := .monthly
  partitionKey := campaignMonth
  rowCount := 0
  amountTotalCent := 0
  statusCounts := []
  digest := hexDigest 'f'
  lastKey := none
  digestHex := isLowerHex64_stamp (Nat.le_refl 64) (by decide) (by decide)
  canonicalKey := by decide +kernel

def roundInput (k : Nat) : RebuildInput where
  generationId := lineageId k
  baseGenerationId := headIdOf k
  inputFingerprint := lineageId k
  partitions := [emptyMonth]

def roundRebuild (k : Nat) : RebuildPublication where
  jobId := "rebuild"
  claimId := "claim"
  generationId := lineageId k
  baseGenerationId := headIdOf k
  inputFingerprint := lineageId k
  manifestChecksum := hexDigest 'f'

def roundArguments : CompactionArguments where
  minimumLineageDepth := 1
  batchSize := 400
  limits := ⟨1000, 1000000000, 1000000000, 10000000000, 0⟩

def roundCompaction (k : Nat) : CompactionPublication where
  jobId := "compaction"
  claimId := "claim"
  generationId := compactIdOf k
  inputFingerprint := compactFingerprint k
  manifestChecksum := hexDigest 'f'

def roundClock : PublishClock := ⟨1, 2, 3, 4⟩

def round (k : Nat) : List MaintenanceAction :=
  [.rebuild (roundInput k), .publish (.rebuild (roundRebuild k)) roundClock,
    .compact roundArguments (lineageId k), .publish (.compaction (roundCompaction k)) roundClock]

def campaign (rounds : Nat) : List MaintenanceAction := (range rounds).flatMap round

theorem campaignStart_legacyHead : LegacyHead campaignDigests campaignStart legacyRoot where
  active := rfl
  row := by
    change [legacyRoot].find? _ = some legacyRoot
    simp
  kind := rfl
  state := rfl
  alone := fun g hg => mem_singleton.mp hg
  manifests := fun m hm => by cases hm
  digest := rfl

def rebuildKey (k : Nat) : String :=
  "settlement-rebuild-publish-v1:" ++ ("rebuild" ++ "|" ++ lineageId k)

def compactionKey (k : Nat) : String :=
  "settlement-compaction-publish-v1:" ++ ("compaction" ++ "|" ++ compactFingerprint k)

/-- The ids, fingerprints and once keys of the rounds from `k` on are unused. -/
structure Unused (k : Nat) (db : Db) : Prop where
  generations : ∀ x ∈ db.generations.rows, ∀ j, k ≤ j → j ≤ 64 →
    x.inputFingerprint ≠ lineageId j ∧ x.inputFingerprint ≠ compactFingerprint j ∧
      x.generationId ≠ lineageId j ∧ x.generationId ≠ compactIdOf j
  events : ∀ e ∈ db.events, ∀ j, k ≤ j → j ≤ 64 →
    e.idempotencyKey ≠ some (rebuildKey j) ∧ e.idempotencyKey ≠ some (compactionKey j)

structure Campaign (k : Nat) (db : Db) (head : Generation) (older : List Generation) : Prop where
  sound : Sound campaignDigests db (head :: older)
  id : head.generationId = headIdOf k
  depth : head.lineageDepth = 0
  compactions : (compactIds (head :: older)).length = k
  length : (head :: older).length = 2 * k + 1
  unused : Unused k db
  partitions : ∀ m ∈ db.manifests.rows, m.partition = (.monthly, campaignMonth)
  jobs : db.jobs = campaignStart.jobs
  tip : ∀ j, k = j + 1 → head.generationKind = .compact ∧
    head.compactionBaseGenerationId = some (lineageId j) ∧
    (db.manifest? head.generationId .monthly campaignMonth).isSome = true

end DyData.Projection
