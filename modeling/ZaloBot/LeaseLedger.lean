import Mathlib

/-!
# Ledgers of fenced leases

The life of one unit of work that is leased to workers: it waits, is held
under a token, and is finally finished, withdrawn or buried.  Each lease adds
an attempt to the ledger, and an attempt is closed with an outcome when its
lease ends.  Every move that starts a lease uses a token the ledger has never
seen.  From these moves alone follow the fencing facts: the holder's token is
the last one issued, a closed attempt never changes, the distinguished
outcome `done` is recorded at most once, and the finished and withdrawn phases
are final.
-/

namespace ZaloBot

namespace LeaseLedger

variable {Token Outcome : Type*}

/-- Where the unit of work is. -/
inductive Phase (Token : Type*) where
  | absent
  | waiting
  | held (token : Token)
  | finished
  | withdrawn
  | buried
deriving DecidableEq

/-- One lease, open until it has an outcome. -/
structure Attempt (Token Outcome : Type*) where
  token : Token
  outcome : Option Outcome
deriving DecidableEq

/-- The phase together with every attempt, oldest first. -/
structure Ledger (Token Outcome : Type*) where
  phase : Phase Token
  attempts : List (Attempt Token Outcome)
deriving DecidableEq

namespace Attempt

/-- Record an outcome on an open attempt; a closed one stays as it is. -/
def close (outcome : Outcome) (attempt : Attempt Token Outcome) :
    Attempt Token Outcome :=
  if attempt.outcome.isNone then
    { attempt with outcome := some outcome }
  else
    attempt

@[simp]
theorem close_token (outcome : Outcome) (attempt : Attempt Token Outcome) :
    (attempt.close outcome).token = attempt.token := by
  unfold close
  split <;> rfl

theorem close_of_closed {outcome : Outcome}
    {attempt : Attempt Token Outcome}
    (closed : attempt.outcome.isSome) : attempt.close outcome = attempt := by
  simp [close, Option.isNone_iff_eq_none, Option.isSome_iff_ne_none.mp closed]

end Attempt

/-- Close every open attempt. -/
def closeAll (outcome : Outcome) (attempts : List (Attempt Token Outcome)) :
    List (Attempt Token Outcome) :=
  attempts.map (Attempt.close outcome)

@[simp]
theorem closeAll_tokens (outcome : Outcome)
    (attempts : List (Attempt Token Outcome)) :
    (closeAll outcome attempts).map Attempt.token =
      attempts.map Attempt.token := by
  simp [closeAll, Function.comp_def]

theorem closeAll_of_closed {outcome : Outcome}
    {attempts : List (Attempt Token Outcome)}
    (closed : ∀ attempt ∈ attempts, attempt.outcome.isSome) :
    closeAll outcome attempts = attempts := by
  have unchanged : attempts.map (Attempt.close outcome) =
      attempts.map id := by
    apply List.map_congr_left
    intro attempt member
    exact Attempt.close_of_closed (closed attempt member)
  simpa [closeAll] using unchanged

/-- Everything that can happen to a ledger in one step. -/
inductive Move (done : Outcome) :
    Ledger Token Outcome → Ledger Token Outcome → Prop where
  | enlist (attempts) :
      Move done ⟨.absent, attempts⟩ ⟨.waiting, attempts⟩
  | lease (token attempts)
      (fresh : token ∉ attempts.map Attempt.token) :
      Move done ⟨.waiting, attempts⟩
        ⟨.held token, attempts ++ [⟨token, none⟩]⟩
  | relet (holder token outcome attempts)
      (fresh : token ∉ attempts.map Attempt.token)
      (notDone : outcome ≠ done) :
      Move done ⟨.held holder, attempts⟩
        ⟨.held token, closeAll outcome attempts ++ [⟨token, none⟩]⟩
  | renew (holder attempts) :
      Move done ⟨.held holder, attempts⟩ ⟨.held holder, attempts⟩
  | finish (holder attempts) :
      Move done ⟨.held holder, attempts⟩ ⟨.finished, closeAll done attempts⟩
  | settle (holder outcome phase attempts) (notDone : outcome ≠ done)
      (released : phase = .waiting ∨ phase = .withdrawn ∨ phase = .buried) :
      Move done ⟨.held holder, attempts⟩ ⟨phase, closeAll outcome attempts⟩
  | withdraw (attempts) :
      Move done ⟨.waiting, attempts⟩ ⟨.withdrawn, attempts⟩
  | revive (attempts) :
      Move done ⟨.buried, attempts⟩ ⟨.waiting, attempts⟩

/-- Every attempt is closed, and none with the distinguished outcome. -/
def Settled (done : Outcome) (attempts : List (Attempt Token Outcome)) :
    Prop :=
  ∀ attempt ∈ attempts, ∃ outcome, outcome ≠ done ∧
    attempt.outcome = some outcome

theorem Settled.append_closed {done outcome : Outcome}
    {attempts : List (Attempt Token Outcome)} {token : Token}
    (settled : Settled done attempts) (notDone : outcome ≠ done) :
    Settled done (attempts ++ [⟨token, some outcome⟩]) := by
  intro attempt member
  rcases List.mem_append.mp member with old | new
  · exact settled attempt old
  · rw [List.mem_singleton.mp new]
    exact ⟨outcome, notDone, rfl⟩

theorem Settled.isSome {done : Outcome}
    {attempts : List (Attempt Token Outcome)}
    (settled : Settled done attempts) :
    ∀ attempt ∈ attempts, attempt.outcome.isSome := by
  intro attempt member
  obtain ⟨outcome, _, recorded⟩ := settled attempt member
  simp [recorded]

/-- Closing the attempts of a held ledger closes exactly the last one. -/
theorem Settled.closeAll_append_open {done outcome : Outcome}
    {attempts : List (Attempt Token Outcome)} {token : Token}
    (settled : Settled done attempts) :
    closeAll outcome (attempts ++ [⟨token, none⟩]) =
      attempts ++ [⟨token, some outcome⟩] := by
  have kept : closeAll outcome attempts = attempts :=
    closeAll_of_closed settled.isSome
  simp only [closeAll, List.map_append, List.map_cons, List.map_nil] at kept ⊢
  rw [kept]
  rfl

/-- How the attempts of each phase look. -/
def Shape (done : Outcome) (attempts : List (Attempt Token Outcome)) :
    Phase Token → Prop
  | .absent => attempts = []
  | .held token => ∃ earlier,
      attempts = earlier ++ [⟨token, none⟩] ∧ Settled done earlier
  | .finished => ∃ earlier token,
      attempts = earlier ++ [⟨token, some done⟩] ∧ Settled done earlier
  | .waiting | .withdrawn | .buried => Settled done attempts

/-- The invariant of a ledger: no token is issued twice and the attempts have
the shape of the phase. -/
structure WellFormed (done : Outcome) (ledger : Ledger Token Outcome) :
    Prop where
  tokensNodup : (ledger.attempts.map Attempt.token).Nodup
  shape : Shape done ledger.attempts ledger.phase

theorem wellFormed_absent (done : Outcome) :
    WellFormed done (⟨.absent, []⟩ : Ledger Token Outcome) :=
  ⟨by simp, rfl⟩

private theorem nodup_append_fresh {tokens : List Token} {token : Token}
    (nodup : tokens.Nodup) (fresh : token ∉ tokens) :
    (tokens ++ [token]).Nodup := by
  rw [List.nodup_append]
  refine ⟨nodup, by simp, ?_⟩
  intro old oldMem new newMem equal
  rw [List.mem_singleton] at newMem
  exact fresh (newMem ▸ equal ▸ oldMem)

/-- Every move keeps a ledger well formed. -/
theorem Move.wellFormed {done : Outcome}
    {before after : Ledger Token Outcome} (move : Move done before after)
    (good : WellFormed done before) : WellFormed done after := by
  obtain ⟨nodup, shape⟩ := good
  cases move with
  | enlist attempts =>
      simp only [Shape] at shape
      subst shape
      exact ⟨nodup, by simp [Shape, Settled]⟩
  | lease token attempts fresh =>
      exact ⟨by simpa using nodup_append_fresh nodup fresh,
        attempts, rfl, shape⟩
  | relet holder token outcome attempts fresh notDone =>
      obtain ⟨earlier, rfl, settled⟩ := shape
      refine ⟨?_, _, rfl, ?_⟩
      · simpa using nodup_append_fresh nodup fresh
      · rw [settled.closeAll_append_open]
        exact settled.append_closed notDone
  | renew holder attempts => exact ⟨nodup, shape⟩
  | finish holder attempts =>
      obtain ⟨earlier, rfl, settled⟩ := shape
      exact ⟨by simpa using nodup, earlier, holder,
        settled.closeAll_append_open, settled⟩
  | settle holder outcome phase attempts notDone released =>
      obtain ⟨earlier, rfl, settled⟩ := shape
      have closed : Settled done
          (closeAll outcome (earlier ++ [⟨holder, none⟩])) := by
        rw [settled.closeAll_append_open]
        exact settled.append_closed notDone
      refine ⟨by simpa using nodup, ?_⟩
      rcases released with rfl | rfl | rfl <;> exact closed
  | withdraw attempts => exact ⟨nodup, shape⟩
  | revive attempts => exact ⟨nodup, shape⟩

/-- Every sequence of moves keeps a ledger well formed. -/
theorem WellFormed.of_moves {done : Outcome}
    {before after : Ledger Token Outcome} (good : WellFormed done before)
    (moves : Relation.ReflTransGen (Move done) before after) :
    WellFormed done after := by
  induction moves with
  | refl => exact good
  | tail _ move ih => exact move.wellFormed ih

/-- What one ledger may become: attempts keep their place and token, closed
attempts and final phases stay as they are. -/
structure Extends (before after : Ledger Token Outcome) : Prop where
  attempts : ∀ (index : Nat) (attempt : Attempt Token Outcome),
    before.attempts[index]? = some attempt →
      ∃ later, after.attempts[index]? = some later ∧
        later.token = attempt.token ∧
          (attempt.outcome.isSome → later = attempt)
  finished : before.phase = .finished → after.phase = .finished
  withdrawn : before.phase = .withdrawn → after.phase = .withdrawn

theorem Extends.refl (ledger : Ledger Token Outcome) :
    Extends ledger ledger :=
  ⟨fun _ attempt found => ⟨attempt, found, rfl, fun _ => rfl⟩, id, id⟩

theorem Extends.trans {first middle last : Ledger Token Outcome}
    (before : Extends first middle) (after : Extends middle last) :
    Extends first last where
  attempts := by
    intro index attempt found
    obtain ⟨second, secondFound, secondToken, secondSame⟩ :=
      before.attempts index attempt found
    obtain ⟨third, thirdFound, thirdToken, thirdSame⟩ :=
      after.attempts index second secondFound
    refine ⟨third, thirdFound, thirdToken.trans secondToken, ?_⟩
    intro closed
    have same := secondSame closed
    rw [thirdSame (same ▸ closed), same]
  finished := fun phase => after.finished (before.finished phase)
  withdrawn := fun phase => after.withdrawn (before.withdrawn phase)

private theorem closeAll_getElem? (outcome : Outcome)
    {attempts : List (Attempt Token Outcome)} {index : Nat}
    {attempt : Attempt Token Outcome}
    (found : attempts[index]? = some attempt) :
    ∃ later, (closeAll outcome attempts)[index]? = some later ∧
      later.token = attempt.token ∧
        (attempt.outcome.isSome → later = attempt) := by
  refine ⟨attempt.close outcome, ?_, Attempt.close_token outcome attempt,
    Attempt.close_of_closed⟩
  simp [closeAll, found]

private theorem getElem?_append_of_some {Item : Type*} {items more : List Item}
    {index : Nat} {item : Item} (found : items[index]? = some item) :
    (items ++ more)[index]? = some item := by
  rw [List.getElem?_append_left (List.getElem?_eq_some_iff.mp found).1]
  exact found

theorem Move.extends {done : Outcome}
    {before after : Ledger Token Outcome} (move : Move done before after) :
    Extends before after := by
  cases move with
  | enlist attempts =>
      exact ⟨(Extends.refl ⟨.waiting, attempts⟩).attempts, by simp, by simp⟩
  | lease token attempts fresh =>
      refine ⟨?_, by simp, by simp⟩
      intro index attempt found
      exact ⟨attempt, getElem?_append_of_some found, rfl, fun _ => rfl⟩
  | relet holder token outcome attempts fresh notDone =>
      refine ⟨?_, by simp, by simp⟩
      intro index attempt found
      obtain ⟨later, laterFound, same⟩ := closeAll_getElem? outcome found
      exact ⟨later, getElem?_append_of_some laterFound, same⟩
  | renew holder attempts => exact Extends.refl _
  | finish holder attempts =>
      exact ⟨fun _ _ found => closeAll_getElem? _ found, by simp, by simp⟩
  | settle holder outcome phase attempts notDone released =>
      exact ⟨fun _ _ found => closeAll_getElem? _ found, by simp, by simp⟩
  | withdraw attempts =>
      exact ⟨(Extends.refl ⟨.waiting, attempts⟩).attempts, by simp, by simp⟩
  | revive attempts =>
      exact ⟨(Extends.refl ⟨.waiting, attempts⟩).attempts, by simp, by simp⟩

theorem Extends.of_moves {done : Outcome}
    {before after : Ledger Token Outcome}
    (moves : Relation.ReflTransGen (Move done) before after) :
    Extends before after := by
  induction moves with
  | refl => exact Extends.refl _
  | tail _ move ih => exact ih.trans move.extends

/-- A token issued before the current last attempt is never the holder's
again, however the ledger is extended. -/
theorem superseded_not_held {done : Outcome} {token : Token}
    {earlier : List (Attempt Token Outcome)}
    {last : Attempt Token Outcome} {phase : Phase Token}
    {after : Ledger Token Outcome}
    (issued : token ∈ earlier.map Attempt.token)
    (later : Extends ⟨phase, earlier ++ [last]⟩ after)
    (good : WellFormed done after) : after.phase ≠ .held token := by
  intro held
  obtain ⟨superseded, supersededMem, rfl⟩ := List.mem_map.mp issued
  obtain ⟨index, indexLt, found⟩ := List.mem_iff_getElem.mp supersededMem
  have beforeAt : (earlier ++ [last])[index]? = some superseded := by
    rw [List.getElem?_append_left indexLt, List.getElem?_eq_getElem indexLt,
      found]
  have lastAt : (earlier ++ [last])[earlier.length]? = some last := by
    simp
  obtain ⟨kept, keptAt, keptToken, _⟩ := later.attempts _ _ beforeAt
  obtain ⟨other, otherAt, _, _⟩ := later.attempts _ _ lastAt
  have shape := good.shape
  rw [held] at shape
  obtain ⟨settledAttempts, attemptsEq, _⟩ := shape
  have nodup := good.tokensNodup
  have bound : earlier.length < after.attempts.length :=
    (List.getElem?_eq_some_iff.mp otherAt).1
  have lengthEq : after.attempts.length = settledAttempts.length + 1 := by
    simp [attemptsEq]
  have keptEarly : kept ∈ settledAttempts := by
    rw [attemptsEq, List.getElem?_append_left (by omega)] at keptAt
    exact List.mem_of_getElem? keptAt
  rw [attemptsEq, List.map_append, List.nodup_append] at nodup
  exact nodup.2.2 kept.token (List.mem_map_of_mem keptEarly)
    superseded.token (by simp) keptToken

/-- At most one position of a well-formed ledger records the distinguished
outcome. -/
theorem WellFormed.done_unique {done : Outcome}
    {ledger : Ledger Token Outcome} (good : WellFormed done ledger)
    {first second : Nat} {firstAttempt secondAttempt : Attempt Token Outcome}
    (firstAt : ledger.attempts[first]? = some firstAttempt)
    (secondAt : ledger.attempts[second]? = some secondAttempt)
    (firstDone : firstAttempt.outcome = some done)
    (secondDone : secondAttempt.outcome = some done) : first = second := by
  have notSettled {attempts : List (Attempt Token Outcome)}
      (settled : Settled done attempts) {index : Nat}
      {attempt : Attempt Token Outcome}
      (found : attempts[index]? = some attempt)
      (recorded : attempt.outcome = some done) : False := by
    obtain ⟨outcome, notDone, same⟩ :=
      settled attempt (List.mem_of_getElem? found)
    rw [recorded, Option.some.injEq] at same
    exact notDone same.symm
  obtain ⟨phase, attempts⟩ := ledger
  have shape := good.shape
  have atLast {earlier : List (Attempt Token Outcome)}
      {last : Attempt Token Outcome} (settled : Settled done earlier)
      {index : Nat} {attempt : Attempt Token Outcome}
      (found : (earlier ++ [last])[index]? = some attempt)
      (recorded : attempt.outcome = some done) : index = earlier.length := by
    by_contra different
    by_cases early : index < earlier.length
    · rw [List.getElem?_append_left early] at found
      exact notSettled settled found recorded
    · have bound := (List.getElem?_eq_some_iff.mp found).1
      simp only [List.length_append, List.length_singleton] at bound
      omega
  cases phase with
  | absent =>
      simp only [Shape] at shape
      simp [shape] at firstAt
  | held token =>
      obtain ⟨earlier, rfl, settled⟩ := shape
      rw [atLast settled firstAt firstDone, atLast settled secondAt secondDone]
  | finished =>
      obtain ⟨earlier, token, rfl, settled⟩ := shape
      rw [atLast settled firstAt firstDone, atLast settled secondAt secondDone]
  | waiting | withdrawn | buried =>
      exact (notSettled shape firstAt firstDone).elim

end LeaseLedger

end ZaloBot
