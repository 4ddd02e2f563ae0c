import Mathlib.Data.List.TakeWhile

/-!
# JSON documents

The trees of a JSON library and its getters: a member is looked up without regard to case, a number is read as a
saturated `int`, and a value of another type counts as missing. Printing and parsing are those of the library, of
which only the round trip is assumed.
-/

/-- Numbers are integers here. -/
inductive Json
  | number (value : Int)
  | string (value : String)
  | bool (value : Bool)
  | array (items : List Json)
  | object (members : List (String × Json))

namespace Json

/-! ## Getters -/

def lower (key : String) : List Char := key.toList.map Char.toLower

/-- The first member whose key is the same up to case. -/
def getObjectItem (j : Json) (key : String) : Option Json :=
  match j with
  | .object members => (members.find? fun m => lower m.1 = lower key).map Prod.snd
  | _ => none

/-- The children of an array or of an object; a missing item has none. -/
def children : Option Json → List Json
  | some (.array items) => items
  | some (.object members) => members.map Prod.snd
  | _ => []

def intMax : Int := 2147483647

def intMin : Int := -2147483648

/-- The integer of a number is cut to an `int`. -/
def valueint (value : Int) : Int := if value ≥ intMax then intMax else if value ≤ intMin then intMin else value

/-- What is missing is 0. -/
def getIntValue (j : Json) (key : String) : Int :=
  match j.getObjectItem key with
  | some (.number value) => valueint value
  | _ => 0

def getStringValue (j : Json) (key : String) : String :=
  match j.getObjectItem key with
  | some (.string value) => value
  | _ => ""

/-- What a C string keeps: everything before the first NUL. -/
def cStr (s : String) : String := String.ofList (s.toList.takeWhile (· ≠ '\x00'))

/-- The text is whole as a C string. -/
def NoNul (s : String) : Prop := '\x00' ∉ s.toList

def FitsInt (n : Int) : Prop := intMin ≤ n ∧ n ≤ intMax

instance (n : Int) : Decidable (FitsInt n) := inferInstanceAs (Decidable (_ ∧ _))

theorem cStr_eq {s : String} (h : NoNul s) : cStr s = s := by
  unfold cStr
  rw [List.takeWhile_eq_self_iff.mpr, String.ofList_toList]
  intro c hc
  simp only [decide_eq_true_eq]
  rintro rfl
  exact h hc

theorem valueint_eq {n : Int} (h : FitsInt n) : valueint n = n := by
  obtain ⟨hmin, hmax⟩ := h
  unfold valueint
  split_ifs <;> omega

theorem getObjectItem_of_mem {members : List (String × Json)} (hnodup : ((members.map Prod.fst).map lower).Nodup)
    {key : String} {j : Json} (h : (key, j) ∈ members) : (object members).getObjectItem key = some j := by
  induction members with
  | nil => cases h
  | cons m members ih =>
    rw [List.map_cons, List.map_cons, List.nodup_cons] at hnodup
    simp only [getObjectItem] at ih ⊢
    rw [List.find?_cons]
    rcases List.mem_cons.mp h with rfl | h
    · simp
    · have hne : lower m.1 ≠ lower key := by
        intro heq
        apply hnodup.1
        rw [heq, List.map_map]
        exact List.mem_map.mpr ⟨_, h, rfl⟩
      simpa [hne] using ih hnodup.2 h

theorem getIntValue_eq {j : Json} {key : String} {n : Int} (h : j.getObjectItem key = some (.number n))
    (hn : FitsInt n) : j.getIntValue key = n := by
  rw [getIntValue, h]
  exact valueint_eq hn

theorem getStringValue_eq {j : Json} {key s : String} (h : j.getObjectItem key = some (.string s)) :
    j.getStringValue key = s := by
  rw [getStringValue, h]

/-! ## Texts -/

/-- A document whose numbers are those of an `int` and whose strings have no NUL. -/
inductive Plain : Json → Prop
  | number {n : Int} (h : FitsInt n) : Plain (.number n)
  | string {s : String} (h : NoNul s) : Plain (.string s)
  | bool (b : Bool) : Plain (.bool b)
  | array {items : List Json} (h : ∀ j ∈ items, Plain j) : Plain (.array items)
  | object {members : List (String × Json)} (h : ∀ m ∈ members, Plain m.2) : Plain (.object members)

/-- A library that prints and parses. -/
structure Library where
  printUnformatted : Json → String
  parse : String → Option Json

/-- The plain document is read back from its text. -/
def Library.Faithful (cjson : Library) (j : Json) : Prop := Plain j → cjson.parse (cjson.printUnformatted j) = some j

theorem Library.filterMap_parse {α : Type} (cjson : Library) (toJson : α → Json) (l : List α)
    (hplain : ∀ a ∈ l, (toJson a).Plain) (hfaithful : ∀ a ∈ l, cjson.Faithful (toJson a)) :
    l.filterMap (fun a => cjson.parse (cjson.printUnformatted (toJson a))) = l.map toJson := by
  induction l with
  | nil => rfl
  | cons a l ih =>
    rw [List.forall_mem_cons] at hplain hfaithful
    rw [List.filterMap_cons, hfaithful.1 hplain.1, ih hplain.2 hfaithful.2]
    rfl

end Json
