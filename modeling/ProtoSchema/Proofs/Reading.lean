import Mathlib.Data.List.Perm.Basic

/-!
# Readers that do not depend on order

What a reader makes of one input carries over to another if every value that it gives for
the first has a counterpart for the second. A reader that takes the members of a list one
by one does not depend on their order if any two of them may be taken either way round: then
it carries over to every permutation of the list, with changes in single members that it
does not notice.
-/

namespace ProtoSchema

/-! ## Results -/

section Results

variable {ε α β γ δ : Type}

/-- A bound result is a value of both parts. -/
theorem bind_eq_ok {first : Except ε α} {next : α → Except ε β} {value : β} :
    first >>= next = .ok value ↔ ∃ middle, first = .ok middle ∧ next middle = .ok value := by
  cases first with
  | error => exact iff_of_false nofun nofun
  | ok middle =>
      refine ⟨fun given => ⟨middle, rfl, given⟩, ?_⟩
      rintro ⟨_, ⟨⟩, given⟩
      exact given

/-- Steps that give a value each give the list of their values. -/
theorem mapM_eq_ok {read : α → Except ε β} {value : α → β} {list : List α}
    (reads : ∀ element ∈ list, read element = .ok (value element)) :
    list.mapM read = .ok (list.map value) := by
  induction list with
  | nil => rfl
  | cons element rest ih =>
      obtain ⟨reads, readsRest⟩ := List.forall_mem_cons.mp reads
      rw [List.mapM_cons, reads, ih readsRest]
      rfl

/-- Every value of the first result has a counterpart that is the value of the second. -/
def Carries (like : α → β → Prop) (first : Except ε α) (second : Except ε β) : Prop :=
  ∀ value, first = .ok value → ∃ other, second = .ok other ∧ like value other

/-- Every value of the first result is the value of the second. -/
def Keeps (first second : Except ε α) : Prop :=
  Carries Eq first second

namespace Carries

variable {like : α → β → Prop} {first : Except ε α} {second : Except ε β}

theorem error (error : ε) : Carries like (.error error) second :=
  nofun

theorem ok {value : α} {other : β} (alike : like value other) :
    Carries (ε := ε) like (.ok value) (.ok other) := by
  rintro _ ⟨⟩
  exact ⟨other, rfl, alike⟩

theorem bind {like' : γ → δ → Prop} {next : α → Except ε γ} {next' : β → Except ε δ}
    (carries : Carries like first second)
    (carriesNext : ∀ value other, like value other → Carries like' (next value) (next' other)) :
    Carries like' (first >>= next) (second >>= next') := by
  intro value given
  obtain ⟨middle, isMiddle, given⟩ := bind_eq_ok.mp given
  obtain ⟨other, isOther, alike⟩ := carries middle isMiddle
  rw [isOther]
  exact carriesNext middle other alike value given

end Carries

namespace Keeps

variable {first second third : Except ε α}

theorem refl (result : Except ε α) : Keeps result result :=
  fun value given => ⟨value, given, rfl⟩

theorem eq_ok (keeps : Keeps first second) {value : α} (given : first = .ok value) :
    second = .ok value := by
  obtain ⟨_, same, rfl⟩ := keeps value given
  exact same

theorem trans (keeps : Keeps first second) (keepsNext : Keeps second third) :
    Keeps first third :=
  fun _ given => ⟨_, keepsNext.eq_ok (keeps.eq_ok given), rfl⟩

theorem bind {next next' : α → Except ε β} (keeps : Keeps first second)
    (keepsNext : ∀ value, Keeps (next value) (next' value)) :
    Keeps (first >>= next) (second >>= next') := by
  refine Carries.bind keeps ?_
  rintro value _ rfl
  exact keepsNext value

end Keeps

end Results

/-! ## Lists in another order -/

section Lists

variable {α : Type}

/-- The second list is a permutation of the first in which each member may have been replaced
by one like it. -/
def Reordered (like : α → α → Prop) (first second : List α) : Prop :=
  ∃ middle, first.Perm middle ∧ List.Forall₂ like middle second

variable {like : α → α → Prop} {first second : List α}

theorem Reordered.of_perm (refl : ∀ value, like value value) (perm : first.Perm second) :
    Reordered like first second :=
  ⟨second, perm, List.forall₂_same.mpr fun value _ => refl value⟩

theorem Reordered.of_forall₂ (changed : List.Forall₂ like first second) :
    Reordered like first second :=
  ⟨first, .refl first, changed⟩

/-- One member is replaced by one like it. -/
theorem forall₂_replace (refl : ∀ value, like value value) {value other : α}
    (alike : like value other) (before after : List α) :
    List.Forall₂ like (before ++ value :: after) (before ++ other :: after) :=
  List.rel_append (List.forall₂_same.mpr fun value _ => refl value)
    (.cons alike (List.forall₂_same.mpr fun value _ => refl value))

theorem Reordered.forall_mem {holds : α → Prop} (reordered : Reordered like first second)
    (carries : ∀ {value other}, like value other → holds value → holds other)
    (listed : ∀ value ∈ first, holds value) : ∀ value ∈ second, holds value := by
  obtain ⟨middle, perm, changed⟩ := reordered
  replace listed : ∀ value ∈ middle, holds value :=
    fun value inMiddle => listed value (perm.mem_iff.mpr inMiddle)
  clear perm
  induction changed with
  | nil => exact List.forall_mem_nil _
  | cons alike changed ih =>
      obtain ⟨head, rest⟩ := List.forall_mem_cons.mp listed
      exact List.forall_mem_cons.mpr ⟨carries alike head, ih rest⟩

end Lists

/-! ## Reading each member -/

section Each

variable {ε α β : Type} {read : α → Except ε β} {like : α → α → Prop} {like' : β → β → Prop}
  {first second : List α} {values : List β}

/-- A recursion that reads one member after the other gives the list of their values. -/
theorem eq_ok_iff_forall₂ {readAll : List α → Except ε (List β)} (atEnd : readAll [] = .ok [])
    (atMember : ∀ member rest, readAll (member :: rest) =
      read member >>= fun value => readAll rest >>= fun values => .ok (value :: values)) :
    readAll first = .ok values ↔ List.Forall₂ (fun member value => read member = .ok value)
      first values := by
  induction first generalizing values with
  | nil =>
      rw [atEnd, List.forall₂_nil_left_iff, Except.ok.injEq, eq_comm]
  | cons member rest ih =>
      rw [atMember, bind_eq_ok, List.forall₂_cons_left_iff]
      constructor
      · rintro ⟨value, isValue, given⟩
        obtain ⟨others, areOthers, ⟨⟩⟩ := bind_eq_ok.mp given
        exact ⟨value, others, isValue, ih.mp areOthers, rfl⟩
      · rintro ⟨value, others, isValue, areOthers, rfl⟩
        exact ⟨value, isValue, bind_eq_ok.mpr ⟨others, ih.mpr areOthers, rfl⟩⟩

theorem forall_mem_of_forall₂ {holds : α → Prop} {given : α → β → Prop}
    (taken : ∀ {member value}, given member value → holds member)
    (values : List.Forall₂ given first values) : ∀ member ∈ first, holds member := by
  have both := values.imp fun _ _ isGiven => And.intro (taken isGiven) isGiven
  exact ((List.forall₂_and_left _ _).mp both).1

variable (each : ∀ {member other}, like member other → Carries like' (read member) (read other))

include each

theorem forall₂_carries (changed : List.Forall₂ like first second)
    (given : List.Forall₂ (fun member value => read member = .ok value) first values) :
    ∃ others, List.Forall₂ (fun member value => read member = .ok value) second others ∧
      List.Forall₂ like' values others := by
  induction changed generalizing values with
  | nil =>
      cases given
      exact ⟨[], .nil, .nil⟩
  | cons alike changed ih =>
      cases given with
      | cons isValue given =>
          obtain ⟨other, isOther, alike'⟩ := each alike _ isValue
          obtain ⟨others, areOthers, alikeOthers⟩ := ih given
          exact ⟨other :: others, .cons isOther areOthers, .cons alike' alikeOthers⟩

theorem reordered_carries (reordered : Reordered like first second)
    (given : List.Forall₂ (fun member value => read member = .ok value) first values) :
    ∃ others, List.Forall₂ (fun member value => read member = .ok value) second others ∧
      Reordered like' values others := by
  obtain ⟨middle, perm, changed⟩ := reordered
  obtain ⟨inOrder, areMiddle, perm'⟩ := List.perm_comp_forall₂ perm.symm given
  obtain ⟨others, areOthers, alike⟩ := forall₂_carries (@each) changed areMiddle
  exact ⟨others, areOthers, inOrder, perm'.symm, alike⟩

end Each

/-! ## Runs -/

section Runs

variable {σ α : Type} {take : σ → α → σ → Prop} {alike : σ → σ → Prop} {like : α → α → Prop}

/-- The members of a list are taken one after the other. -/
inductive Run (take : σ → α → σ → Prop) : σ → List α → σ → Prop
  | nil (state : σ) : Run take state [] state
  | cons {state next final : σ} {value : α} {rest : List α} (takes : take state value next)
      (run : Run take next rest final) : Run take state (value :: rest) final

/-- Up to a likeness of states, members may be taken in either order. -/
structure IsOrderFree (take : σ → α → σ → Prop) (alike : σ → σ → Prop) : Prop where
  refl : ∀ state, alike state state
  trans : ∀ {first second third}, alike first second → alike second third → alike first third
  respects : ∀ {state other value next}, alike state other → take state value next →
    ∃ next', take other value next' ∧ alike next next'
  swap : ∀ {state first second next final}, take state first next → take next second final →
    ∃ next' final', take state second next' ∧ take next' first final' ∧ alike final final'

/-- States that are reached either way round need no likeness. -/
theorem IsOrderFree.of_swap (swap : ∀ {state first second next final}, take state first next →
    take next second final → ∃ next', take state second next' ∧ take next' first final) :
    IsOrderFree take Eq where
  refl := fun _ => rfl
  trans := Eq.trans
  respects := by
    rintro state _ value next rfl takes
    exact ⟨next, takes, rfl⟩
  swap := by
    intro state first second next final takesFirst takesSecond
    obtain ⟨next', takesSecond', takesFirst'⟩ := swap takesFirst takesSecond
    exact ⟨next', final, takesSecond', takesFirst', rfl⟩

/-- A recursion over a list that takes one member in each step gives the values of the states
in which its runs end. -/
theorem eq_ok_iff_run {ε β : Type} {read : σ → List α → Except ε β} {gives : σ → β → Prop}
    (atEnd : ∀ state value, read state [] = .ok value ↔ gives state value)
    (atMember : ∀ state member rest value, read state (member :: rest) = .ok value ↔
      ∃ next, take state member next ∧ read next rest = .ok value)
    {state : σ} {list : List α} {value : β} :
    read state list = .ok value ↔ ∃ final, Run take state list final ∧ gives final value := by
  induction list generalizing state with
  | nil =>
      refine (atEnd state value).trans ⟨fun given => ⟨state, .nil state, given⟩, ?_⟩
      rintro ⟨_, ⟨⟩, given⟩
      exact given
  | cons member rest ih =>
      rw [atMember]
      constructor
      · rintro ⟨next, takes, given⟩
        obtain ⟨final, run, gives⟩ := ih.mp given
        exact ⟨final, .cons takes run, gives⟩
      · rintro ⟨final, run, gives⟩
        cases run with
        | cons takes run => exact ⟨_, takes, ih.mpr ⟨final, run, gives⟩⟩

/-- A recursion that gives its state at the end gives the states in which its runs end. -/
theorem eq_ok_iff_run_to {ε : Type} {read : σ → List α → Except ε σ}
    (atEnd : ∀ state, read state [] = .ok state)
    (atMember : ∀ state member rest final, read state (member :: rest) = .ok final ↔
      ∃ next, take state member next ∧ read next rest = .ok final)
    {state final : σ} {list : List α} :
    read state list = .ok final ↔ Run take state list final := by
  have ends : ∀ state final, read state [] = .ok final ↔ state = final := by
    intro state final
    rw [atEnd, Except.ok.injEq]
  rw [eq_ok_iff_run ends atMember]
  simp

namespace Run

theorem of_alike (orderFree : IsOrderFree take alike) {state other final : σ} {list : List α}
    (start : alike state other) (run : Run take state list final) :
    ∃ final', Run take other list final' ∧ alike final final' := by
  induction run generalizing other with
  | nil state => exact ⟨other, .nil other, start⟩
  | cons takes run ih =>
      obtain ⟨next', takes', alike'⟩ := orderFree.respects start takes
      obtain ⟨final', run', same⟩ := ih alike'
      exact ⟨final', .cons takes' run', same⟩

/-- A run carries over to a permutation. -/
theorem of_perm (orderFree : IsOrderFree take alike) {state final : σ} {list other : List α}
    (perm : list.Perm other) (run : Run take state list final) :
    ∃ final', Run take state other final' ∧ alike final final' := by
  induction perm generalizing state final with
  | nil => exact ⟨final, run, orderFree.refl final⟩
  | cons value perm ih =>
      cases run with
      | cons takes run =>
          obtain ⟨final', run', same⟩ := ih run
          exact ⟨final', .cons takes run', same⟩
  | swap first second rest =>
      cases run with
      | cons takesFirst run =>
          cases run with
          | cons takesSecond run =>
              obtain ⟨_, _, takesSecond', takesFirst', same⟩ :=
                orderFree.swap takesFirst takesSecond
              obtain ⟨final', run', same'⟩ := of_alike orderFree same run
              exact ⟨final', .cons takesSecond' (.cons takesFirst' run'), same'⟩
  | trans perm perm' ih ih' =>
      obtain ⟨middle, runMiddle, same⟩ := ih run
      obtain ⟨final', run', same'⟩ := ih' runMiddle
      exact ⟨final', run', orderFree.trans same same'⟩

/-- A run carries over to a list with changes that no step notices. -/
theorem of_forall₂ (orderFree : IsOrderFree take alike)
    (unnoticed : ∀ {state value other next}, like value other → take state value next →
      ∃ next', take state other next' ∧ alike next next')
    {state final : σ} {list other : List α} (changed : List.Forall₂ like list other)
    (run : Run take state list final) :
    ∃ final', Run take state other final' ∧ alike final final' := by
  induction changed generalizing state final with
  | nil => exact ⟨final, run, orderFree.refl final⟩
  | cons alikeValues changed ih =>
      cases run with
      | cons takes run =>
          obtain ⟨next', takes', alikeNext⟩ := unnoticed alikeValues takes
          obtain ⟨middle, runMiddle, same⟩ := ih run
          obtain ⟨final', run', same'⟩ := of_alike orderFree alikeNext runMiddle
          exact ⟨final', .cons takes' run', orderFree.trans same same'⟩

/-- A run carries over to a list in another order with changes that no step notices. -/
theorem of_reordered (orderFree : IsOrderFree take alike)
    (unnoticed : ∀ {state value other next}, like value other → take state value next →
      ∃ next', take state other next' ∧ alike next next')
    {state final : σ} {list other : List α} (reordered : Reordered like list other)
    (run : Run take state list final) :
    ∃ final', Run take state other final' ∧ alike final final' := by
  obtain ⟨list', perm, changed⟩ := reordered
  obtain ⟨middle, runMiddle, same⟩ := of_perm orderFree perm run
  obtain ⟨final', run', same'⟩ := of_forall₂ orderFree unnoticed changed runMiddle
  exact ⟨final', run', orderFree.trans same same'⟩

/-- A reader whose results are runs reads a list in another order, with changes that no step
notices, as well. -/
theorem carries {ε : Type} {read : List α → Except ε σ} {state : σ}
    (isRun : ∀ {list final}, read list = .ok final ↔ Run take state list final)
    (orderFree : IsOrderFree take alike)
    (unnoticed : ∀ {state value other next}, like value other → take state value next →
      ∃ next', take state other next' ∧ alike next next')
    {list other : List α} (reordered : Reordered like list other) :
    Carries alike (read list) (read other) := by
  intro final given
  obtain ⟨final', run, same⟩ := of_reordered orderFree unnoticed reordered (isRun.mp given)
  exact ⟨final', isRun.mpr run, same⟩

/-- What holds of every member that can be taken holds of all members of a run. -/
theorem forall_mem {holds : α → Prop}
    (taken : ∀ {state value next}, take state value next → holds value)
    {state final : σ} {list : List α} (run : Run take state list final) :
    ∀ value ∈ list, holds value := by
  induction run with
  | nil => exact List.forall_mem_nil _
  | cons takes run ih => exact List.forall_mem_cons.mpr ⟨taken takes, ih⟩

end Run

end Runs

end ProtoSchema
