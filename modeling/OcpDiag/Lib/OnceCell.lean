import Mathlib.Data.List.Basic

set_option autoImplicit false

/- A value that is fetched when it is first asked for, and kept from then on. -/
namespace OcpDiag.OnceCell

variable {ε α : Type}

/-- What the asker gets, and the cell afterwards. A fetch that fails leaves the cell empty. -/
def get (cell : Option α) (fetch : Except ε α) : Except ε α × Option α :=
  match cell, fetch with
  | some value, _ => (.ok value, some value)
  | none, .ok value => (.ok value, some value)
  | none, .error reason => (.error reason, none)

def firstOk : List (Except ε α) → Option α
  | [] => none
  | .ok value :: _ => some value
  | .error _ :: rest => firstOk rest

/-- What an asker gets who comes after the fetches of some others. -/
def settled (earlier : List (Except ε α)) (own : Except ε α) : Except ε α :=
  (get (firstOk earlier) own).1

@[simp] theorem get_some (value : α) (fetch : Except ε α) :
    get (some value) fetch = (.ok value, some value) := by
  cases fetch <;> rfl

@[simp] theorem settled_nil (own : Except ε α) : settled [] own = own := by
  cases own <;> rfl

theorem firstOk_append (earlier later : List (Except ε α)) :
    firstOk (earlier ++ later) = (firstOk earlier).or (firstOk later) := by
  induction earlier with
  | nil => rfl
  | cons fetch rest ih =>
      cases fetch with
      | ok value => rfl
      | error reason => exact ih

/-- The cell holds the first success among the fetches. -/
theorem get_firstOk (earlier : List (Except ε α)) (own : Except ε α) :
    (get (firstOk earlier) own).2 = firstOk (earlier ++ [own]) := by
  rw [firstOk_append]
  cases firstOk earlier with
  | some value => rw [get_some, Option.some_or]
  | none => cases own <;> rfl

theorem firstOk_of_settled {earlier : List (Except ε α)} {own : Except ε α} {value : α}
    (got : settled earlier own = .ok value) : firstOk (earlier ++ [own]) = some value := by
  rw [firstOk_append]
  unfold settled at got
  cases before : firstOk earlier with
  | some kept =>
      rw [before, get_some] at got
      exact congrArg some (Except.ok.inj got)
  | none =>
      rw [before] at got
      cases own with
      | ok fetched => exact congrArg some (Except.ok.inj got)
      | error reason => cases got

/-- Once somebody has got a value, everybody gets it. -/
theorem settled_later {earlier : List (Except ε α)} {own : Except ε α} {value : α}
    (got : settled earlier own = .ok value) (between : List (Except ε α)) (later : Except ε α) :
    settled (earlier ++ own :: between) later = .ok value := by
  have kept : firstOk (earlier ++ own :: between) = some value := by
    rw [← List.singleton_append, ← List.append_assoc, firstOk_append, firstOk_of_settled got,
      Option.some_or]
  rw [settled, kept, get_some]

variable {ρ δ : Type} (fetch : ρ → Option (Except ε α)) (answer : ρ → Option (Except ε α) → δ)

/-- One request after the other. Those that do not ask for the value fetch nothing. -/
def serve : Option α → List ρ → List δ
  | _, [] => []
  | cell, request :: rest =>
      match fetch request with
      | none => answer request none :: serve cell rest
      | some own => answer request (some (get cell own).1) :: serve (get cell own).2 rest

/-- The fetches that some requests would do. -/
def fetches (requests : List ρ) : List (Except ε α) := requests.filterMap fetch

@[simp] theorem fetches_cons_none {request : ρ} (absent : fetch request = none) (rest : List ρ) :
    fetches fetch (request :: rest) = fetches fetch rest := List.filterMap_cons_none absent

@[simp] theorem fetches_cons_some {request : ρ} {own : Except ε α}
    (asked : fetch request = some own) (rest : List ρ) :
    fetches fetch (request :: rest) = own :: fetches fetch rest := List.filterMap_cons_some asked

/-- The answer to a request depends on the requests before it by their fetches alone. -/
theorem serve_getElem? (requests : List ρ) (earlier : List (Except ε α)) (place : Nat) :
    (serve fetch answer (firstOk earlier) requests)[place]? =
      requests[place]?.map fun request =>
        answer request
          ((fetch request).map (settled (earlier ++ fetches fetch (requests.take place)))) := by
  induction requests generalizing earlier place with
  | nil => rfl
  | cons request rest ih =>
      cases asked : fetch request with
      | none =>
          rw [serve, asked]
          cases place with
          | zero => simp [asked]
          | succ place =>
              simp only [List.getElem?_cons_succ, List.take_succ_cons, ih,
                fetches_cons_none fetch asked]
      | some own =>
          rw [serve, asked]
          cases place with
          | zero => simp [asked, fetches, settled]
          | succ place =>
              simp only [List.getElem?_cons_succ, List.take_succ_cons, get_firstOk, ih,
                fetches_cons_some fetch asked, List.append_assoc, List.singleton_append]

end OcpDiag.OnceCell
