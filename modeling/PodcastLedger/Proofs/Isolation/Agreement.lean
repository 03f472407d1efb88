import PodcastLedger.Proofs.Isolation.Mirroring
import PodcastLedger.Proofs.Outcome

/-!
# Operations on both sides

An operation of a user agrees in the source with the same operation in the copy: it fails on both
sides for the same reason, or it succeeds on both sides, with results that are the same under the
translation of ids and with stores that mirror each other again (`Store.Both`). Every operation
begins with loading the user, on both sides or on none (`Store.Loads`).
-/

namespace PodcastLedger.Store

variable {translation : Translation} {user : Entry User} {source copy : Store} {name : String}

/-- The stores after an operation mirror each other, and its results are related. -/
def Both {First Second : Type} (translation : Translation) (user : Entry User)
    (related : First → Second → Prop) (first : Store × First) (second : Store × Second) : Prop :=
  Mirrors translation user first.1 second.1 ∧ related first.2 second.2

/-- The user is loaded on both sides or on none, and the stores mirror each other if on both. -/
def Loads (translation : Translation) (user : Entry User) (name : String) (source copy : Store) :
    Prop :=
  Agree
    (fun first second =>
      first = translation.user user ∧ second = user ∧ Mirrors translation user source copy)
    (source.loadUser name) (copy.loadUser name)

/-- Two sequences that begin with an operation agree if they do so after it, when the stores mirror
each other again. -/
theorem bind_both {First Second First' Second' : Type} {related : First → Second → Prop}
    {first : Except Failure (Store × First)} {second : Except Failure (Store × Second)}
    (hagree : Agree (Both translation user related) first second)
    {related' : First' → Second' → Prop} {next : Store × First → Except Failure First'}
    {next' : Store × Second → Except Failure Second'}
    (hnext : ∀ {source' copy' a b}, first = .ok (source', a) → second = .ok (copy', b) →
      Mirrors translation user source' copy' → related a b →
      Agree related' (next (source', a)) (next' (copy', b))) :
    Agree related' (first >>= next) (second >>= next') := by
  refine hagree.bind fun ⟨source', a⟩ ⟨copy', b⟩ hfirst hsecond hboth => ?_
  exact hnext hfirst hsecond hboth.1 hboth.2

/-- Two sequences that begin with loading the user agree if they do so after it. -/
theorem Loads.bind (hloads : Loads translation user name source copy) {First Second : Type}
    {related : First → Second → Prop} {next : Entry User → Except Failure First}
    {next' : Entry User → Except Failure Second}
    (hnext : Mirrors translation user source copy →
      Agree related (next (translation.user user)) (next' user)) :
    Agree related (source.loadUser name >>= next) (copy.loadUser name >>= next') := by
  refine Agree.bind hloads fun first second _ _ hload => ?_
  obtain ⟨rfl, rfl, hmirrors⟩ := hload
  exact hnext hmirrors

/-- The stores mirror each other still after an operation that only reads, and its results are
related. -/
def Kept {First Second : Type} (translation : Translation) (user : Entry User)
    (source copy : Store) (related : First → Second → Prop) (first : First) (second : Second) :
    Prop :=
  Mirrors translation user source copy ∧ related first second

/-- Two readings that begin with loading the user agree if they do so after it. -/
theorem Loads.bind_kept (hloads : Loads translation user name source copy) {First Second : Type}
    {related : First → Second → Prop} {next : Entry User → Except Failure First}
    {next' : Entry User → Except Failure Second}
    (hnext : Mirrors translation user source copy →
      Agree related (next (translation.user user)) (next' user)) :
    Agree (Kept translation user source copy related) (source.loadUser name >>= next)
      (copy.loadUser name >>= next') :=
  hloads.bind fun hmirrors => (hnext hmirrors).mono fun _ _ hrelated => ⟨hmirrors, hrelated⟩

/-- Sorting does not see a change that keeps the order. -/
theorem sort_map {First Second : Type} {change : First → Second} {before : First → First → Bool}
    {before' : Second → Second → Bool}
    (hsame : ∀ a b, before' (change a) (change b) = before a b) (items : List First) :
    (items.map change).mergeSort before' = (items.mergeSort before).map change :=
  (List.map_mergeSort fun a _ b _ => (hsame a b).symm).symm

/-- A statement is let pass on both sides or on none. -/
theorem agree_require {condition condition' : Prop} [Decidable condition] [Decidable condition']
    (hsame : condition ↔ condition') (statement : Statement) :
    Agree Eq (require condition statement) (require condition' statement) := by
  unfold require
  simp only [hsame]
  exact Agree.refl _

end PodcastLedger.Store
