import Mathlib.Data.List.Basic
import OpenZync.Library.SlidingWindow

/-!
# The sliding-window rate limiter

One sorted set in Redis for every key, with a member for every request that
came in, allowed or not.  A request reads the clock three times: before the
pipeline for the score and for the reset time, and after it for the
`Retry-After` of a refusal.

What a key holds within the window of a request is what came in on it, so the
limit holds in every interval of the window's length and a refusal is earned.
The reset time is cut down to whole seconds: a client that waits for its
`Retry-After` may come back up to a second before its window is over.
-/

namespace OpenZync.Middleware

/-- The readings of `time.time()` by one request, in milliseconds. -/
structure RateRequest where
  nowMs : Nat
  nowS : Nat
  answered : Nat
  nowMs_le : nowMs ≤ nowS
  nowS_le : nowS ≤ answered
  deriving DecidableEq

/-- The sorted set of a key: the scores of its members, which are unique, and
the last instant at which it is there. -/
structure RateKey where
  scores : List Nat
  expiresAt : Int

def RateKey.empty : RateKey :=
  { scores := []
    expiresAt := 0 }

/-- Expiry removes the whole set. -/
def RateKey.at (key : RateKey) (now : Nat) : List Nat :=
  if (now : Int) ≤ key.expiresAt then key.scores else []

/-- `ZREMRANGEBYSCORE key 0 cutoff`. -/
def zremrangebyscore (scores : List Nat) (cutoff : Int) : List Nat :=
  scores.filter fun score => ¬ (score : Int) ≤ cutoff

/-- `ZADD` of the request and `EXPIRE`, which deletes the key when the time to
live is not positive. -/
def zaddExpire (scores : List Nat) (now : Nat) (seconds : Int) : RateKey :=
  if 0 < seconds then
    { scores := scores ++ [now]
      expiresAt := now + seconds * 1000 }
  else .empty

inductive RateAnswer where
  | allowed (remaining resetTime : Int)
  | tooManyRequests (resetTime retryAfter : Int)
  deriving DecidableEq

def RateAnswer.isAllowed : RateAnswer → Bool
  | .allowed _ _ => true
  | .tooManyRequests _ _ => false

section Limiter

variable (maxRequests windowSeconds : Int)

/-- `_check_rate_limit`, with the key it leaves. -/
def checkRateLimit (key : RateKey) (request : RateRequest) : (Bool × Int × Int) × RateKey :=
  let windowMs := windowSeconds * 1000
  let cutoffMs := (request.nowMs : Int) - windowMs
  let scores := zremrangebyscore (key.at request.nowMs) cutoffMs
  let currentCount := (scores.length : Int)
  let isAllowed := decide (currentCount < maxRequests)
  let remaining := max 0 (maxRequests - currentCount - 1)
  let resetTime := ((request.nowS / 1000 : Nat) : Int) + windowSeconds
  ((isAllowed, remaining, resetTime),
    zaddExpire scores request.nowMs (windowSeconds + 5))

/-- What the middleware answers, with the key the request leaves. -/
def serve (key : RateKey) (request : RateRequest) : RateAnswer × RateKey :=
  let ((isAllowed, remaining, resetTime), key) :=
    checkRateLimit maxRequests windowSeconds key request
  let retryAfter := max 1 (resetTime - ((request.answered / 1000 : Nat) : Int))
  if isAllowed then (.allowed remaining resetTime, key)
  else (.tooManyRequests resetTime retryAfter, key)

/-- The key after some requests. -/
def keyAfter (requests : List RateRequest) : RateKey :=
  requests.foldl (fun key request => (serve maxRequests windowSeconds key request).2) .empty

/-- The answer to a request after others. -/
def answerAfter (requests : List RateRequest) (request : RateRequest) : RateAnswer :=
  (serve maxRequests windowSeconds (keyAfter maxRequests windowSeconds requests) request).1

/-- The requests on a key with their answers. -/
def answersFrom (key : RateKey) : List RateRequest → List (RateRequest × RateAnswer)
  | [] => []
  | request :: requests =>
      let (answer, key) := serve maxRequests windowSeconds key request
      (request, answer) :: answersFrom key requests

def answers (requests : List RateRequest) : List (RateRequest × RateAnswer) :=
  answersFrom maxRequests windowSeconds .empty requests

end Limiter

open OpenZync.Library

variable {maxRequests windowSeconds : Int}

/-- The requests that came within the window before an instant. -/
def arrived (windowSeconds : Int) (requests : List RateRequest) (now : Int) :
    List RateRequest :=
  recent (fun request => (request.nowMs : Int)) (windowSeconds * 1000) now requests

/-- From the last request on, a key holds what came in within the window. -/
def Tracks (windowSeconds : Int) (key : RateKey) (requests : List RateRequest) : Prop :=
  ∀ now : Nat, (∀ request ∈ requests, request.nowMs ≤ now) →
    zremrangebyscore (key.at now) (now - windowSeconds * 1000) =
      (arrived windowSeconds requests now).map RateRequest.nowMs

theorem tracks_empty : Tracks windowSeconds .empty [] := by
  intro now _
  rw [RateKey.at]
  split
  · rfl
  · rfl

theorem at_zaddExpire {scores : List Nat} {added now : Nat} {seconds : Int} :
    (zaddExpire scores added seconds).at now =
      if 0 < seconds ∧ (now : Int) ≤ added + seconds * 1000 then scores ++ [added] else [] := by
  rw [zaddExpire]
  split
  · rename_i positive
    simp [RateKey.at, positive]
  · rename_i negative
    rw [if_neg (fun both => negative both.1), RateKey.at]
    split
    · rfl
    · rfl

/-- A later cut-off removes what an earlier one left over. -/
theorem zremrangebyscore_later (scores : List Nat) {first second : Int} (later : first ≤ second) :
    zremrangebyscore (zremrangebyscore scores first) second =
      zremrangebyscore scores second := by
  rw [zremrangebyscore, zremrangebyscore, zremrangebyscore, List.filter_filter]
  apply List.filter_congr
  intro score _
  rw [Bool.eq_iff_iff, Bool.and_eq_true, decide_eq_true_eq, decide_eq_true_eq]
  omega

theorem zremrangebyscore_map (requests : List RateRequest) (now : Int) :
    zremrangebyscore (requests.map RateRequest.nowMs) (now - windowSeconds * 1000) =
      (arrived windowSeconds requests now).map RateRequest.nowMs := by
  rw [zremrangebyscore, arrived, recent, List.filter_map]
  congr 1
  apply List.filter_congr
  intro request _
  simp

theorem serve_key (key : RateKey) (request : RateRequest) :
    (serve maxRequests windowSeconds key request).2 =
      zaddExpire (zremrangebyscore (key.at request.nowMs)
        (request.nowMs - windowSeconds * 1000)) request.nowMs (windowSeconds + 5) := by
  simp only [serve]
  split
  · rfl
  · rfl

theorem Tracks.snoc {key : RateKey} {requests : List RateRequest} {request : RateRequest}
    (tracks : Tracks windowSeconds key requests)
    (later : ∀ earlier ∈ requests, earlier.nowMs ≤ request.nowMs) :
    Tracks windowSeconds (serve maxRequests windowSeconds key request).2
      (requests ++ [request]) := by
  intro now arrivals
  have reached : request.nowMs ≤ now := arrivals request (by simp)
  rw [serve_key, at_zaddExpire, ← zremrangebyscore_map]
  split
  · have cutoff : (request.nowMs - windowSeconds * 1000 : Int) ≤ now - windowSeconds * 1000 := by
      omega
    have stored := zremrangebyscore_later (key.at request.nowMs) cutoff
    have came := zremrangebyscore_later (requests.map RateRequest.nowMs) cutoff
    rw [tracks request.nowMs later, ← zremrangebyscore_map, came] at stored
    rw [tracks request.nowMs later, ← zremrangebyscore_map, List.map_append]
    simp only [zremrangebyscore, List.filter_append] at came ⊢
    rw [came]
    rfl
  · rename_i gone
    symm
    rw [zremrangebyscore, zremrangebyscore, List.filter_nil, List.filter_eq_nil_iff]
    intro score member
    obtain ⟨old, oldMember, rfl⟩ := List.mem_map.mp member
    have before : old.nowMs ≤ request.nowMs := by
      rcases List.mem_append.mp oldMember with earlier | last
      · exact later old earlier
      · exact Nat.le_of_eq (congrArg RateRequest.nowMs (List.mem_singleton.mp last))
    have before' := arrivals old oldMember
    simp only [decide_eq_true_eq, not_not]
    omega

theorem keyAfter_snoc (requests : List RateRequest) (request : RateRequest) :
    keyAfter maxRequests windowSeconds (requests ++ [request]) =
      (serve maxRequests windowSeconds (keyAfter maxRequests windowSeconds requests)
        request).2 := by
  rw [keyAfter, keyAfter, List.foldl_append]
  rfl

theorem tracks_keyAfter {requests : List RateRequest}
    (ordered : requests.Pairwise fun first second => first.nowMs ≤ second.nowMs) :
    Tracks windowSeconds (keyAfter maxRequests windowSeconds requests) requests := by
  induction requests using List.reverseRecOn with
  | nil => exact tracks_empty
  | append_singleton requests request induction =>
      obtain ⟨earlier, _, later⟩ := List.pairwise_append.mp ordered
      rw [keyAfter_snoc]
      exact (induction earlier).snoc fun old member => later old member request (by simp)

theorem isAllowed_answerAfter {requests : List RateRequest} {request : RateRequest}
    (ordered : requests.Pairwise fun first second => first.nowMs ≤ second.nowMs)
    (later : ∀ earlier ∈ requests, earlier.nowMs ≤ request.nowMs) :
    (answerAfter maxRequests windowSeconds requests request).isAllowed = true ↔
      ((arrived windowSeconds requests request.nowMs).length : Int) < maxRequests := by
  have tracks : Tracks windowSeconds (keyAfter maxRequests windowSeconds requests) requests :=
    tracks_keyAfter ordered
  have counted := tracks request.nowMs later
  rw [answerAfter]
  simp only [serve, checkRateLimit, counted, List.length_map]
  split
  · rename_i few
    exact iff_of_true rfl (of_decide_eq_true few)
  · rename_i many
    exact iff_of_false (by simp [RateAnswer.isAllowed]) fun few => many (decide_eq_true few)

/-- Every request that comes once the wait is over is allowed. -/
def WaitSuffices (maxRequests windowSeconds : Int) (requests : List RateRequest)
    (answered retryAfter : Int) : Prop :=
  ∀ next : RateRequest, answered + retryAfter * 1000 ≤ next.nowMs →
    (answerAfter maxRequests windowSeconds requests next).isAllowed = true

/-- The start of the window at the end of the wait that a refusal asks for. -/
def waitCutoff (windowSeconds : Int) (request : RateRequest) : Int :=
  max (request.answered + 1000 - windowSeconds * 1000)
    ((request.nowS / 1000 * 1000 : Nat) + (request.answered % 1000 : Nat))

theorem map_fst_answersFrom (key : RateKey) (requests : List RateRequest) :
    (answersFrom maxRequests windowSeconds key requests).map Prod.fst = requests := by
  induction requests generalizing key with
  | nil => rfl
  | cons request requests induction => exact congrArg (request :: ·) (induction _)

theorem answersFrom_split {key : RateKey} {requests : List RateRequest}
    {before after : List (RateRequest × RateAnswer)} {entry : RateRequest × RateAnswer}
    (split : answersFrom maxRequests windowSeconds key requests = before ++ entry :: after) :
    requests = before.map Prod.fst ++ entry.1 :: after.map Prod.fst ∧
      entry.2 = (serve maxRequests windowSeconds ((before.map Prod.fst).foldl
        (fun key request => (serve maxRequests windowSeconds key request).2) key) entry.1).1 := by
  induction requests generalizing key before with
  | nil => simp [answersFrom] at split
  | cons request requests induction =>
      cases before with
      | nil =>
          obtain ⟨rfl, rest⟩ := List.cons.inj split
          refine ⟨?_, rfl⟩
          rw [← rest]
          simp only [List.map_nil, List.nil_append, List.cons.injEq, true_and]
          exact (map_fst_answersFrom _ requests).symm
      | cons first before =>
          obtain ⟨rfl, rest⟩ := List.cons.inj split
          obtain ⟨came, answer⟩ := induction rest
          exact ⟨congrArg (request :: ·) came, answer⟩

theorem answers_split {requests : List RateRequest}
    {before after : List (RateRequest × RateAnswer)} {entry : RateRequest × RateAnswer}
    (split : answers maxRequests windowSeconds requests = before ++ entry :: after) :
    requests = before.map Prod.fst ++ entry.1 :: after.map Prod.fst ∧
      entry.2 = answerAfter maxRequests windowSeconds (before.map Prod.fst) entry.1 :=
  answersFrom_split split

theorem ordered_split {before after : List RateRequest} {request : RateRequest}
    (ordered : (before ++ request :: after).Pairwise
      fun first second => first.nowMs ≤ second.nowMs) :
    (before.Pairwise fun first second => first.nowMs ≤ second.nowMs) ∧
      ∀ earlier ∈ before, earlier.nowMs ≤ request.nowMs := by
  obtain ⟨earlier, _, later⟩ := List.pairwise_append.mp ordered
  exact ⟨earlier, fun old member => later old member request (by simp)⟩

theorem sparse_answers {requests : List RateRequest}
    (ordered : requests.Pairwise fun first second => first.nowMs ≤ second.nowMs) :
    Sparse (fun entry : RateRequest × RateAnswer => (entry.1.nowMs : Int))
      (fun entry => entry.2.isAllowed = true) (windowSeconds * 1000) maxRequests.toNat
      (answers maxRequests windowSeconds requests) := by
  intro before entry after split allowed
  obtain ⟨rfl, answer⟩ := answers_split split
  obtain ⟨earlier, later⟩ := ordered_split ordered
  rw [answer, isAllowed_answerAfter earlier later] at allowed
  have counted : (recent (fun entry : RateRequest × RateAnswer => (entry.1.nowMs : Int))
      (windowSeconds * 1000) entry.1.nowMs before).length =
        (arrived windowSeconds (before.map Prod.fst) entry.1.nowMs).length := by
    rw [arrived, recent, recent, List.filter_map, List.length_map]
    rfl
  change (recent _ _ (entry.1.nowMs : Int) before).length < _
  omega

theorem tooManyRequests_answerAfter {requests : List RateRequest} {request : RateRequest}
    {resetTime retryAfter : Int}
    (refused : answerAfter maxRequests windowSeconds requests request =
      .tooManyRequests resetTime retryAfter) :
    0 ≤ retryAfter ∧ (request.answered : Int) + retryAfter * 1000 - windowSeconds * 1000 =
      waitCutoff windowSeconds request := by
  simp only [answerAfter, serve] at refused
  split at refused
  · contradiction
  · obtain ⟨_, rfl⟩ := RateAnswer.tooManyRequests.inj refused
    simp only [checkRateLimit, waitCutoff]
    omega

/-- After a refusal the wait is long enough exactly when few of the requests so
far are in the window at its end. -/
theorem waitSuffices_iff {requests : List RateRequest} {answered : Nat} {retryAfter : Int}
    (ordered : requests.Pairwise fun first second => first.nowMs ≤ second.nowMs)
    (sent : ∀ request ∈ requests, request.nowMs ≤ answered)
    (positive : 0 ≤ retryAfter) :
    WaitSuffices maxRequests windowSeconds requests answered retryAfter ↔
      ((arrived windowSeconds requests (answered + retryAfter * 1000)).length : Int) <
        maxRequests := by
  constructor
  · intro suffices'
    let wait : Nat := answered + retryAfter.toNat * 1000
    have waited : (wait : Int) = answered + retryAfter * 1000 := by
      simp only [wait]
      omega
    have next := suffices' ⟨wait, wait, wait, Nat.le_refl _, Nat.le_refl _⟩ (by simp [waited])
    rw [isAllowed_answerAfter ordered] at next
    · rw [← waited]
      exact next
    · intro request member
      have before := sent request member
      simp only [wait]
      omega
  · intro few next waited
    rw [isAllowed_answerAfter ordered]
    · have fewer : (arrived windowSeconds requests next.nowMs).length ≤
          (arrived windowSeconds requests (answered + retryAfter * 1000)).length := by
        apply List.Sublist.length_le
        apply List.monotone_filter_right
        intro request recent'
        have inside := of_decide_eq_true recent'
        exact decide_eq_true (by omega)
      omega
    · intro request member
      have before := sent request member
      omega

/-- The requests allowed at a time in some set. -/
def allowedIn (entries : List (RateRequest × RateAnswer)) (inside : Int → Prop)
    [DecidablePred inside] : Nat :=
  entries.countP fun entry => decide (entry.2.isAllowed = true ∧ inside entry.1.nowMs)

/-- The requests that came after the start of the window at the end of a wait. -/
def stillCounted (windowSeconds : Int) (request : RateRequest)
    (requests : List RateRequest) : Nat :=
  requests.countP fun other => decide (waitCutoff windowSeconds request < other.nowMs)

/-- The bound and the reason of a refusal hold without a condition; the wait is
long enough exactly when few of the requests so far are left at its end. -/
theorem limiter_exact_iff {maxRequests : Int} (positive : 1 ≤ maxRequests)
    {requests : List RateRequest}
    (ordered : requests.Pairwise fun first second => first.nowMs ≤ second.nowMs) :
    (∀ start : Int,
      (allowedIn (answers maxRequests windowSeconds requests)
        (fun time => start ≤ time ∧ time < start + windowSeconds * 1000) : Int) ≤ maxRequests ∧
      (allowedIn (answers maxRequests windowSeconds requests)
        (fun time => start < time ∧ time ≤ start + windowSeconds * 1000) : Int) ≤ maxRequests) ∧
    ∀ before entry after,
      answers maxRequests windowSeconds requests = before ++ entry :: after →
      (entry.2.isAllowed = false →
        maxRequests ≤ (arrived windowSeconds (before.map Prod.fst) entry.1.nowMs).length) ∧
      ∀ resetTime retryAfter, entry.2 = .tooManyRequests resetTime retryAfter →
        (∀ other ∈ requests, other.nowMs ≤ entry.1.answered) →
        (WaitSuffices maxRequests windowSeconds requests entry.1.answered retryAfter ↔
          (stillCounted windowSeconds entry.1 requests : Int) < maxRequests) := by
  have sparse : Sparse (fun entry : RateRequest × RateAnswer => (entry.1.nowMs : Int))
      (fun entry => entry.2.isAllowed = true) (windowSeconds * 1000) maxRequests.toNat
      (answers maxRequests windowSeconds requests) := sparse_answers ordered
  constructor
  · intro start
    have left := sparse.countP_le (narrow_Ico (windowSeconds * 1000) start)
    have right := sparse.countP_le (narrow_Ioc (windowSeconds * 1000) start)
    constructor
    · rw [allowedIn]
      omega
    · rw [allowedIn]
      omega
  · intro before entry after split
    obtain ⟨came, answer⟩ := answers_split split
    constructor
    · intro refused
      obtain ⟨earlier, later⟩ := ordered_split (came ▸ ordered)
      rw [answer, ← Bool.not_eq_true, isAllowed_answerAfter earlier later] at refused
      omega
    · intro resetTime retryAfter refusal sent
      obtain ⟨nonneg, cutoff⟩ := tooManyRequests_answerAfter (answer.symm.trans refusal)
      rw [waitSuffices_iff ordered sent nonneg, arrived, recent, cutoff,
        ← List.countP_eq_length_filter]
      rfl

/-- A request at 10.999 s, a second one whose answer is read at 11.000 s. -/
def lateAnswer : List RateRequest :=
  [⟨10999, 10999, 10999, by decide, by decide⟩, ⟨10999, 10999, 11000, by decide, by decide⟩]

theorem limiter_exact_lateAnswer :
    allowedIn (answers 1 60 lateAnswer) (fun time => 10999 ≤ time ∧ time < 70999) ≤ 1 ∧
      (WaitSuffices 1 60 lateAnswer 11000 59 ↔
        (stillCounted 60 ⟨10999, 10999, 11000, by decide, by decide⟩ lateAnswer : Int) < 1) := by
  have exact' := @limiter_exact_iff 60 1 (Int.le_refl 1) lateAnswer
    (show lateAnswer.Pairwise (fun first second => first.nowMs ≤ second.nowMs) by decide)
  constructor
  · have bound := (exact'.1 10999).1
    exact Int.ofNat_le.mp bound
  · exact (exact'.2 [(⟨10999, 10999, 10999, by decide, by decide⟩, .allowed 0 70)]
      (⟨10999, 10999, 11000, by decide, by decide⟩, .tooManyRequests 70 59) [] (by decide)).2
        70 59 rfl (by decide)

/-- The client waits the 59 seconds it was given and is refused again. -/
theorem waitTooShort :
    answers 1 60 lateAnswer =
      [(⟨10999, 10999, 10999, by decide, by decide⟩, .allowed 0 70),
        (⟨10999, 10999, 11000, by decide, by decide⟩, .tooManyRequests 70 59)] ∧
      ¬ WaitSuffices 1 60 lateAnswer 11000 59 := by
  refine ⟨by decide, ?_⟩
  intro enough
  have allowed := enough ⟨70000, 70000, 70000, by decide, by decide⟩ (by decide)
  exact absurd allowed (by decide)

end OpenZync.Middleware
