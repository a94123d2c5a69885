import GuestPlugin.Config
import GuestPlugin.Proofs.Text.Hex
import Mathlib.Data.List.DropRight

/-! # Names of titles and of their directories

A title and the sixteen digits it is written with determine each other and are ordered alike. The digits are
also the last component of the title's directory wherever the plugins lie, so no two titles share one, as
texts or component by component.
-/

set_option autoImplicit false

namespace GuestPlugin

namespace Path

/-- The last component of a path: what stands behind its last slash. -/
def lastName (p : Path) : List Char := p.text.toList.rtakeWhile (· ≠ '/')

theorem rtakeWhile_append_of_notMem {front name : List Char} (hName : '/' ∉ name)
    (hFront : front.getLast?.all (· == '/')) : (front ++ name).rtakeWhile (· ≠ '/') = name := by
  have hAll : ∀ c ∈ name.reverse, decide (c ≠ '/') = true := by
    intro c hc
    rw [decide_eq_true_eq]
    rintro rfl
    exact hName (List.mem_reverse.mp hc)
  have hStop : front.reverse.takeWhile (· ≠ '/') = [] := by
    rw [List.getLast?_eq_head?_reverse] at hFront
    cases hLast : front.reverse with
    | nil => rfl
    | cons c rest =>
      rw [hLast] at hFront
      have hSlash : c = '/' := by simpa using hFront
      simp [hSlash]
  rw [List.rtakeWhile, List.reverse_append, List.takeWhile_append_of_pos hAll, hStop,
    List.append_nil, List.reverse_reverse]

/-- Whatever it is joined to, a name without a slash is the last component. -/
theorem lastName_join (base name : Path) (h : '/' ∉ name.text.toList) :
    (base.join name).lastName = name.text.toList := by
  have hRelative : name.isAbsolute = false := by
    cases hText : name.text.toList with
    | nil => simp [isAbsolute, hText]
    | cons c rest =>
      rw [hText] at h
      have hFirst : c ≠ '/' := fun hSlash => h (hSlash ▸ List.mem_cons_self)
      simp [isAbsolute, hText, hFirst]
  rw [join, hRelative, if_neg Bool.false_ne_true]
  split
  · rename_i hEnd
    rw [lastName, String.toList_append]
    exact rtakeWhile_append_of_notMem h hEnd
  · rw [lastName, String.toList_append, String.toList_append]
    exact rtakeWhile_append_of_notMem h (by simp)

end Path

namespace TitleId

theorem toList_render (t : TitleId) : t.render.toList = t.digits := String.toList_ofList

theorem value_digits (t : TitleId) : Hex.value t.digits = t.value.toNat :=
  Hex.value_digits t.value.toNat_lt

theorem render_inj {a b : TitleId} : a.render = b.render ↔ a = b := by
  constructor
  · intro h
    have hDigits : a.digits = b.digits := by rw [← toList_render, ← toList_render, h]
    have hValue : a.value = b.value := by
      apply UInt64.toNat_inj.mp
      rw [← value_digits, ← value_digits, hDigits]
    cases a
    cases b
    exact congrArg mk hValue
  · exact congrArg render

theorem lastName_titleDirectory (config : Config) (t : TitleId) :
    (config.titleDirectory t).lastName = t.digits := by
  have hNoSlash : '/' ∉ t.render.toList := by
    rw [toList_render]
    intro hSlash
    exact absurd (Hex.mem_alphabet_of_mem_digits hSlash) (by decide)
  have hName := Path.lastName_join config.pluginRoot ⟨t.render⟩ hNoSlash
  exact hName.trans t.toList_render

/-- A title is written with exactly sixteen digits, whose value it is. Titles are ordered as their texts are,
and two titles have neither one text nor, under any plugin root, directories of one name. -/
theorem render_exact (a b : TitleId) :
    a.render.length = 16 ∧ (∀ c ∈ a.render.toList, c ∈ "0123456789ABCDEF".toList) ∧
      Hex.value a.render.toList = a.value.toNat ∧
      (a < b ↔ a.render < b.render) ∧ (a.render = b.render ↔ a = b) ∧
      ∀ config : Config, (config.titleDirectory a).lastName = a.render.toList ∧
        (config.titleDirectory a = config.titleDirectory b ↔ a = b) := by
  refine ⟨?_, ?_, ?_, ?_, render_inj, ?_⟩
  · rw [← String.length_toList, toList_render]
    exact Hex.length_digits 16 _
  · intro c hc
    rw [toList_render] at hc
    exact Hex.mem_alphabet_of_mem_digits hc
  · rw [toList_render, value_digits]
  · rw [String.lt_iff, toList_render, toList_render]
    exact (Hex.digits_lt_iff a.value.toNat_lt b.value.toNat_lt).symm
  · intro config
    have hName := lastName_titleDirectory config
    refine ⟨by rw [hName, toList_render], ?_⟩
    constructor
    · intro h
      apply render_inj.mp
      apply String.toList_inj.mp
      rw [toList_render, toList_render, ← hName, ← hName, h]
    · exact congrArg config.titleDirectory

end TitleId
end GuestPlugin
