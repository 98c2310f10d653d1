/-
When a check succeeds.

A check is put together from the checks of the parts, and it succeeds exactly
when all of them do; what it gives is then put together from what they give.
There is one such lemma for every way of putting checks together, so that a
theorem about the loading of some shape takes the shape apart and never opens
the checks themselves.
-/
import MfmRender.Config

namespace MfmRender

namespace Checked

variable {α β γ : Type}

@[simp] theorem fault_ne_ok (f : Fault) (a : α) : (fault f : Checked α) ≠ .ok a := by
  simp [fault]

theorem inside_eq_ok_iff {step : Step} {c : Checked α} {a : α} :
    inside step c = .ok a ↔ c = .ok a := by
  cases c <;> simp [inside]

theorem map_eq_ok_iff {f : α → β} {c : Checked α} {b : β} :
    Except.map f c = .ok b ↔ ∃ a, c = .ok a ∧ f a = b := by
  cases c <;> simp [Except.map]

theorem map2_eq_ok_iff {f : α → β → γ} {x : Checked α} {y : Checked β} {c : γ} :
    map2 f x y = .ok c ↔ ∃ a b, x = .ok a ∧ y = .ok b ∧ f a b = c := by
  cases x <;> cases y <;> simp [map2]

theorem feed_eq_ok_iff {part : Checked α} {make : Checked (α → β)} {b : β} :
    feed part make = .ok b ↔ ∃ f a, make = .ok f ∧ part = .ok a ∧ f a = b :=
  map2_eq_ok_iff

theorem indexed_cons_eq_ok_iff {check : β → Checked α} {start : Nat} {x : β} {rest : List β}
    {as : List α} :
    indexed check start (x :: rest) = .ok as ↔
      ∃ a more, check x = .ok a ∧ indexed check (start + 1) rest = .ok more ∧ a :: more = as := by
  simp only [indexed, map2_eq_ok_iff, inside_eq_ok_iff]

/-- The items of a list are checked one by one, whatever number the first has. -/
theorem indexed_eq_ok_iff {check : β → Checked α} {xs : List β} :
    ∀ {start : Nat} {as : List α},
      indexed check start xs = .ok as ↔ xs.map check = as.map .ok := by
  induction xs with
  | nil =>
      intro start as
      cases as <;> simp [indexed]
  | cons x rest ih =>
      intro start as
      rw [indexed_cons_eq_ok_iff, List.map_cons]
      constructor
      · rintro ⟨a, more, ha, hmore, rfl⟩
        rw [ha, ih.mp hmore, List.map_cons]
      · intro h
        obtain ⟨a, more, rfl, ha, hmore⟩ := List.map_eq_cons_iff.mp h.symm
        exact ⟨a, more, ha.symm, ih.mpr hmore.symm, rfl⟩

end Checked

namespace Json

theorem checkModel_eq_ok_iff {model : String} {v : Json} {ms : Members} :
    checkModel model v = .ok ms ↔ v = .object ms := by
  cases v <;> simp [checkModel]

theorem Members.require_eq_ok_iff {α : Type} {ms : Members} {name : String}
    {check : Json → Checked α} {a : α} :
    ms.require name check = .ok a ↔ ∃ v, ms.get? name = some v ∧ check v = .ok a := by
  unfold require
  rw [Checked.inside_eq_ok_iff]
  cases ms.get? name <;> simp

theorem Members.allow_eq_ok_iff {α : Type} {ms : Members} {name : String} {default : α}
    {check : Json → Checked α} {a : α} :
    ms.allow name default check = .ok a ↔
      (ms.get? name = none ∧ a = default) ∨ ∃ v, ms.get? name = some v ∧ check v = .ok a := by
  unfold allow
  cases ms.get? name with
  | none => simp [eq_comm]
  | some v => simp [Checked.inside_eq_ok_iff]

end Json

/-- A configuration is made exactly of its options, each of which is checked by itself. -/
theorem Config.ofMembers_eq_ok_iff {ms : Json.Members} {config : Config} :
    Config.ofMembers ms = .ok config ↔
      ms.allow "url" none loadUrl = .ok config.url ∧
        ms.allow "animate" false Json.checkBool = .ok config.animate ∧
        allowEither ms "codeTagAsDiv" "code_tag_as_div" false Json.checkBool
          = .ok config.codeTagAsDiv ∧
        allowEither ms "rootTagName" "root_tag_name" "p" loadRootTagName = .ok config.rootTagName ∧
        allowEither ms "highlightCode" "highlight_code" false Json.checkBool
          = .ok config.highlightCode := by
  simp only [Config.ofMembers, Checked.feed_eq_ok_iff]
  constructor
  · rintro ⟨_, highlight, ⟨_, root, ⟨_, code, ⟨_, animate, ⟨_, url, hmk, hurl, rfl⟩, hanimate, rfl⟩,
      hcode, rfl⟩, hroot, rfl⟩, hhighlight, rfl⟩
    cases hmk
    exact ⟨hurl, hanimate, hcode, hroot, hhighlight⟩
  · rintro ⟨hurl, hanimate, hcode, hroot, hhighlight⟩
    exact ⟨_, _, ⟨_, _, ⟨_, _, ⟨_, _, ⟨_, _, rfl, hurl, rfl⟩, hanimate, rfl⟩, hcode, rfl⟩, hroot,
      rfl⟩, hhighlight, rfl⟩

end MfmRender
