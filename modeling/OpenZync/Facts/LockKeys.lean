import Mathlib.Data.List.Dedup
import OpenZync.Facts.Letters
import OpenZync.Facts.SupersessionIngest
import OpenZync.Library.Segments

/-!
# Lock keys and identities

A lock key joins organisation, project and the normalized terms by colons.  The
normalization leaves lower-case letters, digits and whitespace of any script, so
no term has a colon and the key can be read back; and what it leaves it does not
change any more.
-/

namespace OpenZync.Facts

open OpenZync.Library

/-- Whitespace has no case, whichever script it belongs to. -/
structure SpaceCasing extends Casing where
  lower_spaced : ∀ text : Text, (∀ c ∈ text, c.toNat < 128 ∨ Text.isSpace c = true) →
    lower text = text.map Char.toLower

def SpaceCasing.ascii : SpaceCasing :=
  { Casing.ascii with lower_spaced := fun _ _ => rfl }

section Terms

variable {casing : Casing} {c : Char} {term : Text}

theorem kept_of_mem_normalize (member : c ∈ normalizeIdentityTerm casing term) :
    keptByEntityNameRe c = true := by
  rw [normalizeIdentityTerm] at member
  split at member
  · cases member
  · exact (List.mem_filter.mp (Text.mem_of_mem_strip member)).2

theorem normalize_colonFree (casing : Casing) (term : Text) :
    ':' ∉ normalizeIdentityTerm casing term := by
  intro member
  have kept := kept_of_mem_normalize member
  exact absurd kept (by decide)

theorem lowered_of_kept (kept : keptByEntityNameRe c = true) :
    (c.toNat < 128 ∨ Text.isSpace c = true) ∧ c.toLower = c := by
  rcases (kept_iff c).mp kept with alnum | space
  · have bounds : (97 ≤ c.toNat ∧ c.toNat ≤ 122) ∨ (48 ≤ c.toNat ∧ c.toNat ≤ 57) := by
      simp only [isAsciiAlnum, Bool.or_eq_true, Bool.and_eq_true, decide_eq_true_eq,
        Char.le_def, UInt32.le_iff_toNat_le] at alnum
      exact alnum
    refine ⟨.inl (by omega), ?_⟩
    unfold Char.toLower
    split
    · rename_i upper
      have low : 65 ≤ c.toNat := upper.1
      have high : c.toNat ≤ 90 := upper.2
      omega
    · rfl
  · exact ⟨.inr space, Text.toLower_of_isSpace space⟩

theorem strip_normalize (casing : Casing) (term : Text) :
    Text.strip (normalizeIdentityTerm casing term) = normalizeIdentityTerm casing term := by
  rw [normalizeIdentityTerm]
  split
  · rfl
  · exact Text.strip_strip _

theorem normalize_idempotent (casing : SpaceCasing) (term : Text) :
    normalizeIdentityTerm casing.toCasing (normalizeIdentityTerm casing.toCasing term) =
      normalizeIdentityTerm casing.toCasing term := by
  let normal := normalizeIdentityTerm casing.toCasing term
  have kept : ∀ c ∈ normal, keptByEntityNameRe c = true := fun c => kept_of_mem_normalize
  have lowered : casing.lower normal = normal := by
    rw [casing.lower_spaced normal fun c member => (lowered_of_kept (kept c member)).1]
    exact (List.map_congr_left fun c member => (lowered_of_kept (kept c member)).2).trans
      (List.map_id normal)
  have filtered : normal.filter keptByEntityNameRe = normal := List.filter_eq_self.mpr kept
  change normalizeIdentityTerm casing.toCasing normal = normal
  rw [normalizeIdentityTerm]
  split
  · rename_i empty
    exact empty.symm
  · rw [lowered, filtered]
    exact strip_normalize casing.toCasing term

example : normalizeIdentityTerm SpaceCasing.ascii.toCasing " Works-At: HQ ".toList =
    "worksat hq".toList := by
  decide

end Terms

section Keys

variable {orgId projectId orgId' projectId' : Uuid} {identity identity' : NameIdentity}

/-- No term of the identity has the separator of a key. -/
structure ColonFree (identity : NameIdentity) : Prop where
  subject : ':' ∉ identity.subject
  predicate : ':' ∉ identity.predicate
  object : ':' ∉ identity.object

theorem Entry.nameIdentity_colonFree (casing : Casing) (entry : Entry) :
    ColonFree (entry.nameIdentity casing) :=
  ⟨normalize_colonFree casing _, normalize_colonFree casing _, normalize_colonFree casing _⟩

theorem lockKeyForIdentity_eq (orgId projectId : Uuid) (identity : NameIdentity) :
    lockKeyForIdentity orgId projectId identity = "sup:".toList ++ (Text.ofUuid orgId ++
      ':' :: (Text.ofUuid projectId ++ ':' :: (identity.subject ++
        ':' :: (identity.predicate ++ ':' :: identity.object)))) := by
  unfold lockKeyForIdentity
  simp only [List.append_assoc, List.cons_append]

/-- A key is read back segment by segment. -/
theorem lockKeyForIdentity_inj (orgBound : orgId < 2 ^ 128) (orgBound' : orgId' < 2 ^ 128)
    (projectBound : projectId < 2 ^ 128) (projectBound' : projectId' < 2 ^ 128)
    (free : ColonFree identity) (free' : ColonFree identity')
    (same : lockKeyForIdentity orgId projectId identity =
      lockKeyForIdentity orgId' projectId' identity') :
    orgId = orgId' ∧ projectId = projectId' ∧ identity = identity' := by
  rw [lockKeyForIdentity_eq, lockKeyForIdentity_eq] at same
  obtain ⟨org, same⟩ := append_separator_inj (Text.ofUuid_colonFree _) (Text.ofUuid_colonFree _)
    (List.append_cancel_left same)
  obtain ⟨project, same⟩ :=
    append_separator_inj (Text.ofUuid_colonFree _) (Text.ofUuid_colonFree _) same
  obtain ⟨subject, same⟩ := append_separator_inj free.subject free'.subject same
  obtain ⟨predicate, object⟩ := append_separator_inj free.predicate free'.predicate same
  refine ⟨Text.ofUuid_inj orgBound orgBound' org, Text.ofUuid_inj projectBound projectBound'
    project, ?_⟩
  cases identity
  cases identity'
  subst subject predicate object
  rfl

end Keys

/-- The arguments of a lock key before the normalization; any term may be `None`. -/
structure TripleScope where
  orgId : Uuid
  projectId : Uuid
  subject : Option Text
  predicate : Option Text
  object : Option Text
  orgId_bound : orgId < 2 ^ 128
  projectId_bound : projectId < 2 ^ 128

namespace TripleScope

def nameIdentity (casing : Casing) (scope : TripleScope) : NameIdentity :=
  { subject := normalizeIdentityTerm casing (scope.subject.getD [])
    predicate := normalizeIdentityTerm casing (scope.predicate.getD [])
    object := normalizeIdentityTerm casing (scope.object.getD []) }

def lockKey (casing : Casing) (scope : TripleScope) : Text :=
  lockKeyForIdentity scope.orgId scope.projectId (scope.nameIdentity casing)

theorem nameIdentity_colonFree (casing : Casing) (scope : TripleScope) :
    ColonFree (scope.nameIdentity casing) :=
  ⟨normalize_colonFree casing _, normalize_colonFree casing _, normalize_colonFree casing _⟩

end TripleScope

/-- Lock keys stand for organisation, project and normalized triple, and a
normalized term is its own normalization and has no separator. -/
theorem lockKey_faithful (casing : SpaceCasing) (first second : TripleScope)
    (term : Option Text) :
    (first.lockKey casing.toCasing = second.lockKey casing.toCasing ↔
      first.orgId = second.orgId ∧ first.projectId = second.projectId ∧
        normalizeIdentityTerm casing.toCasing (first.subject.getD []) =
          normalizeIdentityTerm casing.toCasing (second.subject.getD []) ∧
        normalizeIdentityTerm casing.toCasing (first.predicate.getD []) =
          normalizeIdentityTerm casing.toCasing (second.predicate.getD []) ∧
        normalizeIdentityTerm casing.toCasing (first.object.getD []) =
          normalizeIdentityTerm casing.toCasing (second.object.getD [])) ∧
    normalizeIdentityTerm casing.toCasing
        (normalizeIdentityTerm casing.toCasing (term.getD [])) =
      normalizeIdentityTerm casing.toCasing (term.getD []) ∧
    ':' ∉ normalizeIdentityTerm casing.toCasing (term.getD []) := by
  refine ⟨?_, normalize_idempotent casing _, normalize_colonFree _ _⟩
  constructor
  · intro same
    obtain ⟨org, project, identity⟩ := lockKeyForIdentity_inj first.orgId_bound
      second.orgId_bound first.projectId_bound second.projectId_bound
      (first.nameIdentity_colonFree casing.toCasing)
      (second.nameIdentity_colonFree casing.toCasing) same
    exact ⟨org, project, congrArg NameIdentity.subject identity,
      congrArg NameIdentity.predicate identity, congrArg NameIdentity.object identity⟩
  · rintro ⟨org, project, subject, predicate, object⟩
    have identity : first.nameIdentity casing.toCasing = second.nameIdentity casing.toCasing := by
      rw [TripleScope.nameIdentity, subject, predicate, object]
      rfl
    rw [TripleScope.lockKey, org, project, identity]
    rfl

theorem worksAt_orgId : 1 < 2 ^ 128 := by
  decide

theorem worksAt_projectId : 2 < 2 ^ 128 := by
  decide

/-- What two calls have of one fact, in one project. -/
def worksAt (subject : Text) (object : Option Text) : TripleScope where
  orgId := 1
  projectId := 2
  subject := some subject
  predicate := some "works_at".toList
  object := object
  orgId_bound := worksAt_orgId
  projectId_bound := worksAt_projectId

example :
    (worksAt " Ada ".toList none).lockKey SpaceCasing.ascii.toCasing =
        (worksAt "ADA!".toList (some [])).lockKey SpaceCasing.ascii.toCasing ∧
      (worksAt "Ada".toList none).lockKey SpaceCasing.ascii.toCasing ≠
        (worksAt "Ada".toList (some "HQ".toList)).lockKey SpaceCasing.ascii.toCasing := by
  decide +kernel

/-- Two ingest calls take a lock in common exactly when they are of one project and
have a triple in common. -/
theorem sharedLock_iff (casing : Casing) {first second : IngestCall}
    (orgBound : first.orgId < 2 ^ 128) (orgBound' : second.orgId < 2 ^ 128)
    (projectBound : first.projectId < 2 ^ 128) (projectBound' : second.projectId < 2 ^ 128) :
    (∃ key ∈ first.lockKeys casing, key ∈ second.lockKeys casing) ↔
      ∃ entry ∈ first.entries casing, ∃ other ∈ second.entries casing,
        first.orgId = second.orgId ∧ first.projectId = second.projectId ∧
          entry.nameIdentity casing = other.nameIdentity casing := by
  have keys : ∀ (call : IngestCall) (key : Text), key ∈ call.lockKeys casing ↔
      ∃ entry ∈ call.entries casing,
        lockKeyForIdentity call.orgId call.projectId (entry.nameIdentity casing) = key := by
    intro call key
    rw [IngestCall.lockKeys, (List.perm_insertionSort _ _).mem_iff, List.mem_dedup, List.mem_map]
  constructor
  · rintro ⟨key, member, member'⟩
    obtain ⟨entry, listed, rfl⟩ := (keys first key).mp member
    obtain ⟨other, listed', same⟩ := (keys second _).mp member'
    exact ⟨entry, listed, other, listed', lockKeyForIdentity_inj orgBound orgBound' projectBound
      projectBound' (entry.nameIdentity_colonFree casing) (other.nameIdentity_colonFree casing)
      same.symm⟩
  · rintro ⟨entry, listed, other, listed', org, project, identity⟩
    refine ⟨_, (keys first _).mpr ⟨entry, listed, rfl⟩, (keys second _).mpr
      ⟨other, listed', ?_⟩⟩
    rw [org, project, identity]

end OpenZync.Facts
