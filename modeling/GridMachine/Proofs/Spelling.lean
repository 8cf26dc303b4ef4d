import Mathlib
import GridMachine.Operation

/-! # How operations are written

Reading a mnemonic turns the text to upper case and looks it up in the catalogue. What that accepts
is said here character by character (`Spells`): the text is as long as the mnemonic, and each of its
characters is that of the mnemonic or the same letter in lower case. The mnemonics are written in
upper-case ASCII letters, so that to compare them with a text in upper case is to compare them with
the text up to the case of ASCII letters; and they differ from each other, so that it is of no
consequence in which order the catalogue lists them. -/

namespace GridMachine

/-! ## Letters in two cases -/

/-- The characters are the same, or are one ASCII letter in upper and in lower case. -/
def SameLetter (c d : Char) : Prop :=
  c = d ∨ c.isUpper = true ∧ d.toNat = c.toNat + 32 ∨ d.isUpper = true ∧ c.toNat = d.toNat + 32

theorem isUpper_iff {c : Char} : c.isUpper = true ↔ 65 ≤ c.toNat ∧ c.toNat ≤ 90 := by
  simp [Char.isUpper, UInt32.le_iff_toNat_le]

theorem isLower_iff {c : Char} : c.isLower = true ↔ 97 ≤ c.toNat ∧ c.toNat ≤ 122 := by
  simp [Char.isLower, UInt32.le_iff_toNat_le]

/-- To come to an upper-case letter is to be that letter, in either case. -/
theorem toUpper_eq_iff {c d : Char} (upper : d.isUpper = true) :
    c.toUpper = d ↔ SameLetter c d := by
  rw [isUpper_iff] at upper
  simp only [SameLetter, isUpper_iff, ← Char.toNat_inj]
  by_cases lower : c.isLower = true
  · have hletter := isLower_iff.1 lower
    have hvalid : (c.toNat - 32).isValidChar := .inl (by omega)
    rw [Char.toUpper_eq_of_isLower lower, Char.toNat_ofNat, if_pos hvalid]
    omega
  · rw [Char.toUpper_eq_of_not_isLower lower]
    rw [isLower_iff] at lower
    omega

namespace Operation

variable {text : String} {op op' : Operation}

/-! ## Mnemonics -/

theorem isUpper_of_mem_mnemonic (op : Operation) :
    ∀ d ∈ op.mnemonic.toList, d.isUpper = true := by
  have hall : all.all (fun op => op.mnemonic.toList.all Char.isUpper) = true := by decide +kernel
  simp only [List.all_eq_true] at hall
  exact hall op (mem_all op)

theorem mnemonic_inj (h : op.mnemonic = op'.mnemonic) : op = op' := by
  have hall : ∀ op ∈ all, ∀ op' ∈ all, op.mnemonic = op'.mnemonic → op = op' := by decide
  exact hall op (mem_all op) op' (mem_all op') h

/-- The text is the mnemonic of the operation, the case of its letters apart. -/
structure Spells (text : String) (op : Operation) : Prop where
  length : text.length = op.mnemonic.length
  letters : ∀ (i : Nat) (c d : Char),
    text.toList[i]? = some c → op.mnemonic.toList[i]? = some d → SameLetter c d

theorem spells_iff : Spells text op ↔ op.mnemonic = text.toUpper := by
  rw [← String.toList_inj, String.toUpper, String.toList_map]
  constructor
  · intro h
    have hlength : text.toList.length = op.mnemonic.toList.length := by
      rw [String.length_toList, String.length_toList, h.length]
    refine List.ext_getElem (by rw [List.length_map, hlength]) ?_
    intro i hi hi'
    have hupper := isUpper_of_mem_mnemonic op _ (List.getElem_mem hi)
    have hletter := h.letters i _ _ (List.getElem?_eq_getElem (hlength ▸ hi))
      (List.getElem?_eq_getElem hi)
    rw [List.getElem_map]
    exact ((toUpper_eq_iff hupper).2 hletter).symm
  · intro h
    refine ⟨?_, ?_⟩
    · rw [← String.length_toList, ← String.length_toList, h, List.length_map]
    intro i c d hc hd
    have hupper := isUpper_of_mem_mnemonic op d (List.mem_of_getElem? hd)
    rw [h, List.getElem?_map, hc] at hd
    exact (toUpper_eq_iff hupper).1 (Option.some.inj hd)

/-- A text spells one operation at most. -/
theorem Spells.unique (h : Spells text op) (h' : Spells text op') : op = op' :=
  mnemonic_inj ((spells_iff.1 h).trans (spells_iff.1 h').symm)

/-- What is written around a mnemonic, or in letters of another alphabet, is no mnemonic. -/
theorem Spells.isAlpha (h : Spells text op) : ∀ c ∈ text.toList, c.isAlpha = true := by
  intro c hc
  have hmem : c.toUpper ∈ op.mnemonic.toList := by
    rw [spells_iff.1 h, String.toUpper, String.toList_map]
    exact List.mem_map_of_mem hc
  have hupper := isUpper_of_mem_mnemonic op _ hmem
  rw [Char.isUpper_toUpper_eq_isAlpha] at hupper
  exact hupper

/-! ## Reading -/

/-- Reading by a catalogue that may list the operations in another order. -/
def parseIn (catalogue : List Operation) (text : String) : Except UnknownMnemonic Operation :=
  match catalogue.find? (fun op => op.mnemonic == text.toUpper) with
  | some op => .ok op
  | none => .error ⟨text⟩

theorem parse_eq (text : String) : parse text = parseIn all text := rfl

section Catalogue

variable {catalogue : List Operation} (full : ∀ op, op ∈ catalogue)
include full

theorem find?_eq_some_iff :
    catalogue.find? (fun op => op.mnemonic == text.toUpper) = some op ↔ Spells text op := by
  rw [spells_iff]
  constructor
  · intro h
    have hfound := List.find?_some h
    exact beq_iff_eq.1 hfound
  · intro h
    cases hfound : catalogue.find? (fun op => op.mnemonic == text.toUpper) with
    | none =>
      have hnone := List.find?_eq_none.1 hfound op (full op)
      exact absurd (beq_iff_eq.2 h) hnone
    | some found =>
      have hmnemonic := List.find?_some hfound
      rw [mnemonic_inj ((beq_iff_eq.1 hmnemonic).trans h.symm)]

theorem parseIn_eq_ok_iff : parseIn catalogue text = .ok op ↔ Spells text op := by
  rw [← find?_eq_some_iff full, parseIn]
  cases catalogue.find? (fun op => op.mnemonic == text.toUpper) <;> simp

theorem parseIn_eq_error_iff {e : UnknownMnemonic} :
    parseIn catalogue text = .error e ↔ e = ⟨text⟩ ∧ ∀ op, ¬Spells text op := by
  simp only [← find?_eq_some_iff full, parseIn]
  cases catalogue.find? (fun op => op.mnemonic == text.toUpper) <;> simp [eq_comm]

end Catalogue

/-- **Reading accepts exactly the mnemonics**, in any mix of upper and lower case. The operation is
the one that the text spells, of which there is one at most, in whatever order the catalogue lists
them. Any other text is refused and handed back, and so is one with a character that is no ASCII
letter. So mnemonics are read back, and what is read is the text in upper case. -/
theorem parse_exact :
    (∀ text op, parse text = .ok op ↔ Spells text op) ∧
    (∀ text op op', Spells text op → Spells text op' → op = op') ∧
    (∀ text catalogue, catalogue.Perm all → parseIn catalogue text = parse text) ∧
    (∀ text e, parse text = .error e ↔ e = ⟨text⟩ ∧ ∀ op, ¬Spells text op) ∧
    (∀ text c, c ∈ text.toList → c.isAlpha = false → parse text = .error ⟨text⟩) ∧
    (∀ op, parse op.mnemonic = .ok op) ∧
    ∀ text op, parse text = .ok op → op.mnemonic = text.toUpper := by
  have hok {text : String} {op : Operation} : parse text = .ok op ↔ Spells text op := by
    rw [parse_eq, parseIn_eq_ok_iff mem_all]
  have herror {text : String} {e : UnknownMnemonic} :
      parse text = .error e ↔ e = ⟨text⟩ ∧ ∀ op, ¬Spells text op := by
    rw [parse_eq, parseIn_eq_error_iff mem_all]
  refine ⟨fun _ _ => hok, fun _ _ _ => Spells.unique, ?_, fun _ _ => herror, ?_, ?_, ?_⟩
  · intro text catalogue order
    have full : ∀ op, op ∈ catalogue := fun op => order.mem_iff.2 (mem_all op)
    cases hparse : parse text with
    | ok op => exact (parseIn_eq_ok_iff full).2 (hok.1 hparse)
    | error e => exact (parseIn_eq_error_iff full).2 (herror.1 hparse)
  · intro text c hc hother
    refine herror.2 ⟨rfl, fun op h => ?_⟩
    rw [h.isAlpha c hc] at hother
    cases hother
  · intro op
    refine hok.2 ⟨rfl, fun i c d hc hd => ?_⟩
    exact .inl (Option.some.inj (hc.symm.trans hd))
  · intro text op h
    exact spells_iff.1 (hok.1 h)

/-- A mnemonic that another one begins with is read in mixed case, also from the catalogue turned
round. With a blank after it, or with the long s, which is an upper-case S to some, a text is handed
back. -/
theorem mixed_case_parsed :
    Spells "bLt" (.branch .lessThan) ∧
      parseIn all.reverse "bLt" = .ok (.branch .lessThan) ∧
      parse "BL " = .error ⟨"BL "⟩ ∧ parse "ſub" = .error ⟨"ſub"⟩ := by
  obtain ⟨hok, -, horder, -, hother, -, -⟩ := parse_exact
  have hspells : Spells "bLt" (.branch .lessThan) := spells_iff.2 (by decide +kernel)
  refine ⟨hspells, ?_, ?_, ?_⟩
  · rw [horder _ _ (List.reverse_perm all)]
    exact (hok _ _).2 hspells
  · exact hother _ ' ' (by decide +kernel) rfl
  · exact hother _ 'ſ' (by decide +kernel) rfl

end Operation

end GridMachine
