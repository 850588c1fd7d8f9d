import OmarchyM1Video.Py.Json

/-!
Python's `==` of two JSON values.

Numbers are compared by their value, whatever their kind; two objects are equal if they have the same
names, with equal values.

* `Json.same`: the comparison;
* `same_eqInt`: values that are equal are equal to the same integers;
* `same_get?`: equal objects have equal members;
* `same_arr_self`, `same_obj_self`: when a list or an object is equal to itself;
* `identical`, `eq_of_identical`: a test of two values that are the same, also in the kinds of numbers.
-/

namespace OmarchyM1Video.Py

namespace Json

/-- The exact value of a number that has one. -/
def number? : Json → Option ℚ
  | bool b => some (if b then 1 else 0)
  | int n => some n
  | float (.finite q) => some q
  | _ => none

/-- `x == y` of values that are neither lists nor objects. -/
def sameScalar : Json → Json → Bool
  | null, null => true
  | str s, str t => s = t
  | float (.infinite s), float (.infinite t) => s = t
  | x, y => (number? x).any fun q => number? y = some q

mutual

/-- `x == y`. -/
def same : Json → Json → Bool
  | arr xs, arr ys => sameElements xs ys
  | obj xs, obj ys => xs.length = ys.length && sameMembers xs ys
  | x, y => sameScalar x y

def sameElements : List Json → List Json → Bool
  | [], [] => true
  | x :: xs, y :: ys => same x y && sameElements xs ys
  | _, _ => false

/-- Each member is in the other object, with an equal value. -/
def sameMembers : List (String × Json) → List (String × Json) → Bool
  | [], _ => true
  | (name, x) :: xs, ys =>
      (match member? ys name with
      | some y => same x y
      | none => false) && sameMembers xs ys

end

lemma eqInt_iff {n : ℤ} {x : Json} : x.eqInt n = true ↔ x.number? = some (n : ℚ) := by
  cases x with
  | bool b =>
      cases b
      · simp only [eqInt, number?, Bool.false_eq_true, if_false, decide_eq_true_eq, Option.some.injEq]
        exact_mod_cast Iff.rfl
      · simp only [eqInt, number?, if_true, decide_eq_true_eq, Option.some.injEq]
        exact_mod_cast Iff.rfl
  | int m => simp [eqInt, number?]
  | float f => cases f <;> simp [eqInt, number?]
  | _ => simp [eqInt, number?]

/-- Equal values are equal to the same integers. -/
lemma same_eqInt {x y : Json} (h : same x y = true) (n : ℤ) : x.eqInt n = y.eqInt n := by
  rw [Bool.eq_iff_iff, eqInt_iff, eqInt_iff]
  have hscalar : ∀ {x y : Json}, sameScalar x y = true → x.number? = y.number? := by
    intro x y h
    unfold sameScalar at h
    split at h
    · rfl
    · rfl
    · rfl
    · cases hx : x.number? with
      | none => rw [hx] at h; exact absurd h (by simp)
      | some q => rw [hx] at h; simpa [eq_comm] using h
  unfold same at h
  split at h
  · exact Iff.rfl
  · exact Iff.rfl
  · rw [hscalar h]

/-- Equal objects have equal members. -/
lemma same_get? {x y : Json} (h : same x y = true) {name : String} {v : Json}
    (hv : x.get? name = some v) : ∃ w, y.get? name = some w ∧ same v w = true := by
  cases x with
  | obj xs =>
      cases y with
      | obj ys =>
          rw [same, Bool.and_eq_true] at h
          have hmembers := h.2
          clear h
          induction xs with
          | nil => exact absurd hv (by simp [get?, member?])
          | cons m xs ih =>
              rw [sameMembers, Bool.and_eq_true] at hmembers
              rw [get?, member?, List.find?_cons] at hv
              by_cases hm : m.1 = name
              · rw [decide_eq_true hm, Option.map_some] at hv
                obtain rfl := Option.some.inj hv
                obtain ⟨hfirst, -⟩ := hmembers
                rw [get?, ← hm]
                cases hw : member? ys m.1 with
                | none => rw [hw] at hfirst; exact absurd hfirst (by simp)
                | some w => rw [hw] at hfirst; exact ⟨w, rfl, hfirst⟩
              · rw [decide_eq_false hm] at hv
                exact ih hv hmembers.2
      | _ => exact absurd h (by simp [same, sameScalar, number?])
  | _ => exact absurd hv (by simp [get?])

/-- A list is equal to itself if its elements are. -/
lemma same_arr_self {xs : List Json} (h : ∀ x ∈ xs, x.same x = true) :
    (arr xs).same (arr xs) = true := by
  rw [same]
  induction xs with
  | nil => rfl
  | cons x xs ih =>
      rw [sameElements, h x List.mem_cons_self, Bool.true_and]
      exact ih fun y hy => h y (List.mem_cons_of_mem x hy)

lemma member?_of_mem {members : List (String × Json)} {m : String × Json} (hm : m ∈ members)
    (hnames : (members.map Prod.fst).Nodup) : member? members m.1 = some m.2 := by
  induction members with
  | nil => exact absurd hm List.not_mem_nil
  | cons first members ih =>
      rw [List.map_cons, List.nodup_cons] at hnames
      rw [member?, List.find?_cons]
      rcases List.mem_cons.mp hm with rfl | hm
      · rw [decide_eq_true rfl, Option.map_some]
      · have hne : first.1 ≠ m.1 := fun heq => hnames.1 (heq ▸ List.mem_map_of_mem hm)
        rw [decide_eq_false hne]
        exact ih hm hnames.2

/-- An object whose names are distinct is equal to itself if its members are. -/
lemma same_obj_self {members : List (String × Json)} (hnames : (members.map Prod.fst).Nodup)
    (h : ∀ m ∈ members, m.2.same m.2 = true) : (obj members).same (obj members) = true := by
  have hall : ∀ ms, (∀ m ∈ ms, m ∈ members) → sameMembers ms members = true := by
    intro ms hms
    induction ms with
    | nil => rfl
    | cons m ms ih =>
        rw [sameMembers, member?_of_mem (hms m List.mem_cons_self) hnames, Bool.and_eq_true]
        exact ⟨h m (hms m List.mem_cons_self), ih fun x hx => hms x (List.mem_cons_of_mem m hx)⟩
  rw [same, decide_eq_true rfl, Bool.true_and]
  exact hall members fun _ hm => hm

/-! ### The same value -/

mutual

/-- The same value, numbers being of the same kind too. -/
def identical : Json → Json → Bool
  | null, null => true
  | bool a, bool b => a = b
  | int n, int m => n = m
  | float f, float g => f = g
  | str s, str t => s = t
  | arr xs, arr ys => identicalElements xs ys
  | obj xs, obj ys => identicalMembers xs ys
  | _, _ => false

def identicalElements : List Json → List Json → Bool
  | [], [] => true
  | x :: xs, y :: ys => identical x y && identicalElements xs ys
  | _, _ => false

def identicalMembers : List (String × Json) → List (String × Json) → Bool
  | [], [] => true
  | (name, x) :: xs, (name', y) :: ys => name = name' && identical x y && identicalMembers xs ys
  | _, _ => false

end

mutual

lemma eq_of_identical : ∀ {x y : Json}, identical x y = true → x = y := by
  intro x y h
  cases x <;> cases y
  case arr.arr xs ys => rw [elements_eq_of_identical h]
  case obj.obj xs ys => rw [members_eq_of_identical h]
  all_goals simp_all [identical]

lemma elements_eq_of_identical : ∀ {xs ys : List Json}, identicalElements xs ys = true → xs = ys
  | [], [], _ => rfl
  | [], _ :: _, h | _ :: _, [], h => absurd h (by simp [identicalElements])
  | x :: xs, y :: ys, h => by
      rw [identicalElements, Bool.and_eq_true] at h
      rw [eq_of_identical h.1, elements_eq_of_identical h.2]

lemma members_eq_of_identical :
    ∀ {xs ys : List (String × Json)}, identicalMembers xs ys = true → xs = ys
  | [], [], _ => rfl
  | [], _ :: _, h | _ :: _, [], h => absurd h (by simp [identicalMembers])
  | (name, x) :: xs, (name', y) :: ys, h => by
      simp only [identicalMembers, Bool.and_eq_true, decide_eq_true_eq] at h
      rw [h.1.1, eq_of_identical h.1.2, members_eq_of_identical h.2]

end

end Json

end OmarchyM1Video.Py
