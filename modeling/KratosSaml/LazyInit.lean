import Mathlib.Logic.Function.Basic
import Mathlib.Data.List.Nodup
import KratosSaml.Handlers

/-!
# The lazily built engine under concurrent requests

`submitMetadata` and `loginWithIdp` of the strategy file's handler check the
package variable `samlMiddleware`, build the engine when it is nil, store it, and
then use whatever the variable holds. Each request is three atomic steps: read
the variable; if it was nil, run `instantiateMiddleware` and store its result;
use the variable. A schedule says which request moves at each step; any number
of requests can interleave. Engines are numbered by construction.

A build can fail (`stepF`, with `ok i` saying whether request `i`'s build
succeeds): nothing is stored and the request goes on to use the variable. `step`
is the machine where every build succeeds (`runF_true`); the race and the
schedules that reach the bound run there, and every guarantee is stated over
`stepF`, for every choice of failing builds.

There is no lock around the check and the store. Every request that reads nil
before the first store completes builds an engine of its own, and the last store
wins: any number of requests that all read first build one engine each. What
does hold: a request builds only after reading nil and with a build that
succeeds, and at most once; once stored, the variable is never nil again, so no
later reader builds; a request that uses nil read nil and its own build failed;
and requests that run one after another retry a failed build until one succeeds,
which is then the only engine. The `Server` module relates serial schedules to
the handlers served in order.
-/

namespace KratosSaml.LazyInit

/-- Where one request is, as far as the engine goes. -/
inductive Pc
  | start
  | building
  | serving
  | done (used : Option Nat)
  deriving DecidableEq, Repr

/-- The shared variable, the construction count, each request's position, and
two ghost logs: the requests that read nil and those that built, in order. -/
structure World where
  samlMiddleware : Option Nat
  constructions : Nat
  pc : Nat → Pc
  nilReaders : List Nat
  builders : List Nat

def init : World := ⟨none, 0, fun _ => .start, [], []⟩

/-- Request `i` takes its next step, its build succeeding. -/
def step (w : World) (i : Nat) : World :=
  match w.pc i with
  | .start =>
    match w.samlMiddleware with
    | none => { w with pc := Function.update w.pc i .building, nilReaders := w.nilReaders ++ [i] }
    | some _ => { w with pc := Function.update w.pc i .serving }
  | .building =>
    { w with samlMiddleware := some w.constructions, constructions := w.constructions + 1,
             pc := Function.update w.pc i .serving, builders := w.builders ++ [i] }
  | .serving => { w with pc := Function.update w.pc i (.done w.samlMiddleware) }
  | .done _ => w

def run (w : World) (schedule : List Nat) : World := schedule.foldl step w

theorem run_append (w : World) (s s' : List Nat) : run w (s ++ s') = run (run w s) s' :=
  List.foldl_append _ _ _ _

/-- Two requests both read nil before either stores: two engines are built, and
the first request uses one the second does not. -/
theorem run_two_readers_build_twice :
    (run init [0, 1, 0, 0, 1, 1]).constructions = 2 ∧
    (run init [0, 1, 0, 0, 1, 1]).pc 0 = .done (some 0) ∧
    (run init [0, 1, 0, 0, 1, 1]).pc 1 = .done (some 1) := by
  decide

/-- Request `i` takes its next step, where `ok i` says whether its build succeeds.
`instantiateMiddleware` returns an error when the key, the certificate or the IDP
metadata cannot be loaded: nothing is stored, and the request goes on to use
whatever the variable then holds. A build that panics ends its request: a
schedule that never moves it again. -/
def stepF (ok : Nat → Bool) (w : World) (i : Nat) : World :=
  match w.pc i with
  | .building => if ok i then step w i else { w with pc := Function.update w.pc i .serving }
  | _ => step w i

def runF (ok : Nat → Bool) (w : World) (schedule : List Nat) : World :=
  schedule.foldl (stepF ok) w

/-- The machine of `step`, in which the race and the schedules that reach the bound
are run, is the one where every build succeeds. -/
theorem runF_true : runF (fun _ => true) = run := by
  funext w schedule
  unfold runF run stepF
  congr
  funext w i
  split <;> rfl

variable {w : World} {i : Nat} {ok : Nat → Bool}

theorem step_start_none (hi : w.pc i = .start) (h : w.samlMiddleware = none) :
    step w i = { w with pc := Function.update w.pc i .building,
                        nilReaders := w.nilReaders ++ [i] } := by
  simp [step, hi, h]

theorem step_start_some {e : Nat} (hi : w.pc i = .start) (h : w.samlMiddleware = some e) :
    step w i = { w with pc := Function.update w.pc i .serving } := by
  simp [step, hi, h]

theorem step_building (hi : w.pc i = .building) :
    step w i = { w with samlMiddleware := some w.constructions,
                        constructions := w.constructions + 1,
                        pc := Function.update w.pc i .serving, builders := w.builders ++ [i] } := by
  simp [step, hi]

theorem step_serving (hi : w.pc i = .serving) :
    step w i = { w with pc := Function.update w.pc i (.done w.samlMiddleware) } := by
  simp [step, hi]

theorem step_done {u : Option Nat} (hi : w.pc i = .done u) : step w i = w := by
  simp [step, hi]

theorem stepF_of_ne_building (hi : w.pc i ≠ .building) : stepF ok w i = step w i := by
  unfold stepF
  split
  · exact absurd ‹_› hi
  · rfl

theorem stepF_building_ok (hi : w.pc i = .building) (hok : ok i = true) :
    stepF ok w i = step w i := by
  simp [stepF, hi, hok]

theorem stepF_building_fail (hi : w.pc i = .building) (hok : ok i = false) :
    stepF ok w i = { w with pc := Function.update w.pc i .serving } := by
  simp [stepF, hi, hok]

theorem stepF_pc_of_ne {j : Nat} (hj : j ≠ i) : (stepF ok w i).pc j = w.pc j := by
  unfold stepF step
  repeat' split
  all_goals simp [Function.update_noteq hj]

theorem runF_pc_of_not_mem {j : Nat} {schedule : List Nat} (hj : j ∉ schedule) :
    (runF ok w schedule).pc j = w.pc j := by
  induction schedule generalizing w with
  | nil => rfl
  | cons i s ih =>
    rw [List.mem_cons, not_or] at hj
    exact (ih hj.2).trans (stepF_pc_of_ne hj.1)

/-- What a request's position says about the world: past its build, a request has
an engine to use, or it read nil and its own build failed. -/
def PcOk (ok : Nat → Bool) (w : World) (j : Nat) : Pc → Prop
  | .start => j ∉ w.nilReaders
  | .building => j ∈ w.nilReaders ∧ j ∉ w.builders
  | .serving => w.samlMiddleware.isSome ∨ ok j = false ∧ j ∈ w.nilReaders
  | .done u => u.isSome ∨ ok j = false ∧ j ∈ w.nilReaders

/-- The invariant of every reachable world. The variable holds the newest engine:
the last store wins. -/
structure Inv (ok : Nat → Bool) (w : World) : Prop where
  constructions_eq : w.constructions = w.builders.length
  stored_newest :
    w.samlMiddleware = if w.constructions = 0 then none else some (w.constructions - 1)
  builders_nodup : w.builders.Nodup
  nilReaders_nodup : w.nilReaders.Nodup
  builder_readNil : ∀ j ∈ w.builders, j ∈ w.nilReaders ∧ ok j = true
  pc_ok : ∀ j, PcOk ok w j (w.pc j)

/-- A step of request `i` to position `p` that logs nothing but `i` and never
clears the variable keeps every other request's position consistent. -/
theorem pcOk_step {w' : World} {p : Pc} (hw : ∀ j, PcOk ok w j (w.pc j))
    (hpc : w'.pc = Function.update w.pc i p) (hi : PcOk ok w' i p)
    (hread : ∃ l ⊆ [i], w'.nilReaders = w.nilReaders ++ l)
    (hbuilt : ∃ l ⊆ [i], w'.builders = w.builders ++ l)
    (hstored : w.samlMiddleware.isSome → w'.samlMiddleware.isSome) :
    ∀ j, PcOk ok w' j (w'.pc j) := by
  intro j
  by_cases hj : j = i
  · subst hj; simpa [hpc] using hi
  have fresh : ∀ l ⊆ [i], j ∉ l := fun l hl h => hj (List.mem_singleton.mp (hl h))
  obtain ⟨l, hl, hr⟩ := hread
  obtain ⟨l', hl', hb⟩ := hbuilt
  have grown : j ∈ w.nilReaders → j ∈ w'.nilReaders := fun h => hr ▸ List.mem_append_left l h
  have h := hw j
  rw [hpc, Function.update_noteq hj]
  generalize w.pc j = q at h ⊢
  cases q with
  | start => simpa [PcOk, hr, fresh l hl] using h
  | building => simpa [PcOk, hr, hb, fresh l' hl', h.1] using h.2
  | serving => exact h.imp hstored (And.imp_right grown)
  | done u => exact h.imp_right (And.imp_right grown)

theorem inv_init : Inv ok init :=
  ⟨rfl, rfl, List.nodup_nil, List.nodup_nil, by simp [init], fun _ => by simp [init, PcOk]⟩

theorem step_inv (hw : Inv ok w) (i : Nat) : Inv ok (stepF ok w i) := by
  have hpc := hw.pc_ok i
  rcases hi : w.pc i with _ | _ | _ | u <;> rw [hi] at hpc
  · rw [stepF_of_ne_building (by simp [hi])]
    cases hs : w.samlMiddleware with
    | none =>
      rw [step_start_none hi hs]
      exact { hw with
        nilReaders_nodup := by simpa using hw.nilReaders_nodup.concat hpc
        builder_readNil := fun j hj => (hw.builder_readNil j hj).imp_left (List.mem_append_left _)
        pc_ok := pcOk_step hw.pc_ok rfl
          (by simpa [PcOk] using fun h => hpc (hw.builder_readNil i h).1)
          ⟨[i], by simp, rfl⟩ ⟨[], by simp, by simp⟩ (by simp [hs]) }
    | some e =>
      rw [step_start_some hi hs]
      exact { hw with
        pc_ok := pcOk_step hw.pc_ok rfl (by simp [PcOk, hs]) ⟨[], by simp, by simp⟩
          ⟨[], by simp, by simp⟩ id }
  · cases hok : ok i
    · rw [stepF_building_fail hi hok]
      exact { hw with
        pc_ok := pcOk_step hw.pc_ok rfl (by simp [PcOk, hok, hpc.1]) ⟨[], by simp, by simp⟩
          ⟨[], by simp, by simp⟩ id }
    · rw [stepF_building_ok hi hok, step_building hi]
      exact ⟨by simp [hw.constructions_eq], by simp, by simpa using hw.builders_nodup.concat hpc.2,
        hw.nilReaders_nodup, by simpa [or_imp, forall_and, hpc.1, hok] using hw.builder_readNil,
        pcOk_step hw.pc_ok rfl (by simp [PcOk]) ⟨[], by simp, by simp⟩ ⟨[i], by simp, rfl⟩
          (by simp)⟩
  · rw [stepF_of_ne_building (by simp [hi]), step_serving hi]
    exact { hw with
      pc_ok := pcOk_step hw.pc_ok rfl hpc ⟨[], by simp, by simp⟩ ⟨[], by simp, by simp⟩ id }
  · rw [stepF_of_ne_building (by simp [hi]), step_done hi]
    exact hw

theorem run_inv (hw : Inv ok w) (schedule : List Nat) : Inv ok (runF ok w schedule) := by
  induction schedule generalizing w with
  | nil => exact hw
  | cons i s ih => exact ih (step_inv hw i)

/-- What every interleaving of any number of requests guarantees, whichever
builds fail. -/
structure GuaranteesF (ok : Nat → Bool) (w : World) : Prop where
  constructions_le : w.constructions ≤ (w.nilReaders.filter ok).length
  builder_readNil : ∀ j ∈ w.builders, j ∈ w.nilReaders ∧ ok j = true
  builds_once : w.builders.Nodup
  stored_newest :
    w.samlMiddleware = if w.constructions = 0 then none else some (w.constructions - 1)
  nil_use : ∀ j, w.pc j = .done none → j ∈ w.nilReaders ∧ ok j = false

theorem runF_init_guarantees (ok : Nat → Bool) (schedule : List Nat) :
    GuaranteesF ok (runF ok init schedule) := by
  have hw : Inv ok (runF ok init schedule) := run_inv inv_init schedule
  refine ⟨?_, hw.builder_readNil, hw.builders_nodup, hw.stored_newest, fun j hj => ?_⟩
  · rw [hw.constructions_eq]
    refine (List.subperm_of_subset hw.builders_nodup fun j hj => ?_).length_le
    exact List.mem_filter.mpr (hw.builder_readNil j hj)
  · simpa [hj, PcOk, and_comm] using hw.pc_ok j

/-- Distinct requests that all read the unset variable move to building. -/
theorem run_reads {reqs : List Nat} (hs : w.samlMiddleware = none) (hnd : reqs.Nodup)
    (hstart : ∀ j ∈ reqs, w.pc j = .start) :
    run w reqs = { w with pc := fun k => if k ∈ reqs then .building else w.pc k,
                          nilReaders := w.nilReaders ++ reqs } := by
  induction reqs generalizing w with
  | nil => cases w; simp [run]
  | cons j rest ih =>
    obtain ⟨hj, hrest⟩ := List.nodup_cons.mp hnd
    rw [run, List.foldl_cons, ← run, step_start_none (hstart j (.head _)) hs,
      ih (w := { w with pc := Function.update w.pc j .building, nilReaders := w.nilReaders ++ [j] })
        hs hrest fun k hk => by
          simp only [Function.update_noteq (ne_of_mem_of_not_mem hk hj)]
          exact hstart k (List.mem_cons_of_mem j hk)]
    simp only [List.append_assoc, List.singleton_append, World.mk.injEq, and_true, true_and]
    funext k
    rcases eq_or_ne k j with rfl | hk
    · simp [hj]
    · simp [hk]

/-- Distinct requests that are all building each build an engine. -/
theorem run_builds {reqs : List Nat} (hnd : reqs.Nodup) (hb : ∀ j ∈ reqs, w.pc j = .building) :
    (run w reqs).constructions = w.constructions + reqs.length := by
  induction reqs generalizing w with
  | nil => rfl
  | cons j rest ih =>
    obtain ⟨hj, hrest⟩ := List.nodup_cons.mp hnd
    rw [run, List.foldl_cons, ← run, step_building (hb j (.head _)),
      ih hrest fun k hk => by
        simp only [Function.update_noteq (ne_of_mem_of_not_mem hk hj)]
        exact hb k (List.mem_cons_of_mem j hk)]
    simp only [List.length_cons]
    omega

/-- Any number of first-use requests that all read the variable before one of them
stores it build one engine each. -/
theorem run_readers_build_each {reqs : List Nat} (hnd : reqs.Nodup) :
    (run init (reqs ++ reqs)).constructions = reqs.length := by
  rw [run_append, run_reads (w := init) rfl hnd fun _ _ => rfl,
    run_builds hnd fun j hj => by simp [hj]]
  simp [init]

theorem run_readers_build_each_three :
    ([0, 1, 2] : List Nat).Nodup ∧ (run init ([0, 1, 2] ++ [0, 1, 2])).constructions = 3 :=
  ⟨by decide, run_readers_build_each (by decide)⟩

/-- Each request runs to its end before the next starts. -/
def serial (reqs : List Nat) : List Nat := reqs.flatMap fun i => [i, i, i]

theorem runF_append (w : World) (s s' : List Nat) :
    runF ok w (s ++ s') = runF ok (runF ok w s) s' :=
  List.foldl_append _ _ _ _

theorem mem_serial {j : Nat} {reqs : List Nat} : j ∈ serial reqs ↔ j ∈ reqs := by
  simp [serial]

theorem runF_request_of_stored {e j : Nat} (hs : w.samlMiddleware = some e)
    (hj : w.pc j = .start) :
    runF ok w [j, j, j] = { w with pc := Function.update w.pc j (.done (some e)) } := by
  simp [runF, stepF, step, hs, hj]

theorem runF_request_built {j : Nat} (hs : w.samlMiddleware = none) (hj : w.pc j = .start)
    (hok : ok j = true) :
    runF ok w [j, j, j] = { samlMiddleware := some w.constructions,
                            constructions := w.constructions + 1,
                            pc := Function.update w.pc j (.done (some w.constructions)),
                            nilReaders := w.nilReaders ++ [j], builders := w.builders ++ [j] } := by
  simp [runF, stepF, step, hs, hj, hok]

theorem runF_request_failed {j : Nat} (hs : w.samlMiddleware = none) (hj : w.pc j = .start)
    (hok : ok j = false) :
    runF ok w [j, j, j] = { w with pc := Function.update w.pc j (.done none),
                                   nilReaders := w.nilReaders ++ [j] } := by
  simp [runF, stepF, step, hs, hj, hok]

theorem runF_serial_of_stored {e : Nat} {reqs : List Nat} (hs : w.samlMiddleware = some e)
    (hnd : reqs.Nodup) (hstart : ∀ j ∈ reqs, w.pc j = .start) :
    runF ok w (serial reqs) =
      { w with pc := fun k => if k ∈ reqs then .done (some e) else w.pc k } := by
  induction reqs generalizing w with
  | nil => rfl
  | cons j rest ih =>
    obtain ⟨hj, hrest⟩ := List.nodup_cons.mp hnd
    have hnext : ∀ k ∈ rest, Function.update w.pc j (.done (some e)) k = .start := fun k hk => by
      rw [Function.update_noteq (ne_of_mem_of_not_mem hk hj)]
      exact hstart k (List.mem_cons_of_mem j hk)
    rw [serial, List.flatMap_cons, runF_append, runF_request_of_stored hs (hstart j (.head _))]
    rw [← serial, ih (w := { w with pc := Function.update w.pc j (.done (some e)) }) hs hrest hnext]
    congr 1
    funext k
    rcases eq_or_ne k j with rfl | hk
    · simp [hj]
    · simp [hk]

/-- Requests that run one after another on an unset variable, whichever builds
fail: a failed build leaves the variable nil and the next request builds again;
each request uses nil exactly when its own build and every earlier one failed,
and one engine is built in all, by the first request whose build succeeds. -/
theorem runF_serial_of_unset {reqs : List Nat} (hs : w.samlMiddleware = none) (hnd : reqs.Nodup)
    (hstart : ∀ j ∈ reqs, w.pc j = .start) :
    (runF ok w (serial reqs)).constructions = w.constructions + (if reqs.any ok then 1 else 0) ∧
    ∀ pre j post, reqs = pre ++ j :: post →
      (runF ok w (serial reqs)).pc j =
        .done (if (pre ++ [j]).any ok then some w.constructions else none) := by
  induction reqs generalizing w with
  | nil => exact ⟨by simp [runF, serial], fun pre j post h => by simp at h⟩
  | cons r rest ih =>
    obtain ⟨hr, hrest⟩ := List.nodup_cons.mp hnd
    have hnext : ∀ p, ∀ k ∈ rest, Function.update w.pc r p k = .start := fun p k hk => by
      rw [Function.update_noteq (ne_of_mem_of_not_mem hk hr)]
      exact hstart k (List.mem_cons_of_mem r hk)
    rw [serial, List.flatMap_cons, runF_append, ← serial]
    cases hok : ok r
    · rw [runF_request_failed hs (hstart r (.head _)) hok]
      have ih' := ih (w := { w with pc := Function.update w.pc r (.done none),
                                    nilReaders := w.nilReaders ++ [r] }) hs hrest (hnext _)
      refine ⟨by simp [ih'.1, hok], fun pre j post h => ?_⟩
      cases pre with
      | nil =>
        obtain ⟨rfl, rfl⟩ := List.cons_eq_cons.mp h
        rw [runF_pc_of_not_mem (mem_serial.not.mpr hr)]
        simp [hok]
      | cons p pre =>
        obtain ⟨rfl, hrest'⟩ := List.cons_eq_cons.mp h
        rw [ih'.2 pre j post hrest']
        simp [hok]
    · rw [runF_request_built hs (hstart r (.head _)) hok, runF_serial_of_stored rfl hrest (hnext _)]
      refine ⟨by simp [hok], fun pre j post h => ?_⟩
      cases pre with
      | nil =>
        obtain ⟨rfl, rfl⟩ := List.cons_eq_cons.mp h
        simp [hr, hok]
      | cons p pre =>
        obtain ⟨rfl, rfl⟩ := List.cons_eq_cons.mp h
        simp [hok]

/-- Distinct requests run one after another on an unset variable, whichever builds
fail: one engine is built in all if any build succeeds, by the first request whose
build succeeds; a request uses the nil engine exactly when its own build and every
earlier one failed, and that engine otherwise. -/
theorem runF_serial_retries (ok : Nat → Bool) {reqs : List Nat} (hnd : reqs.Nodup) :
    (runF ok init (serial reqs)).constructions = (if reqs.any ok then 1 else 0) ∧
    ∀ pre j post, reqs = pre ++ j :: post →
      (runF ok init (serial reqs)).pc j = .done (if (pre ++ [j]).any ok then some 0 else none) := by
  simpa [init] using runF_serial_of_unset (w := init) rfl hnd fun _ _ => rfl

theorem runF_serial_retries_first_fails :
    ([0, 1] : List Nat).Nodup ∧
      (runF (fun i => i != 0) init (serial [0, 1])).constructions =
        (if [0, 1].any (fun i => i != 0) then 1 else 0) ∧
      ∀ pre j post, [0, 1] = pre ++ j :: post →
        (runF (fun i => i != 0) init (serial [0, 1])).pc j =
          .done (if (pre ++ [j]).any (fun i => i != 0) then some 0 else none) :=
  ⟨by decide, runF_serial_retries (fun i => i != 0) (by decide)⟩

end KratosSaml.LazyInit
