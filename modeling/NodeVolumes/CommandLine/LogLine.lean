import NodeVolumes.Text.Quoted

/-! # Lines of the plain log

The plain log goes to a terminal, where control characters could start commands. Those that do are
written as escapes; in a log of JSON objects they are harmless and stay.

* `LogLine.plain` writes a message for the plain log.
* `isSafe_of_mem_escape`: none of those characters is left. -/

namespace NodeVolumes.LogLine

/-- Tells the control characters of ASCII that a terminal obeys: bell, backspace, form feed, escape and
delete. -/
def isCommand (c : Char) : Bool := ['\x07', '\x08', '\x0c', '\x1b', '\x7f'].contains c

/-- Tells the control characters behind ASCII. -/
def isUpperControl (c : Char) : Bool := 0x80 ≤ c.toNat && c.toNat ≤ 0x9F

/-- Tells the characters that a terminal does not obey. -/
def isSafe (c : Char) : Bool := !isCommand c && !isUpperControl c

/-- The written form of a character in the plain log. -/
def escape (c : Char) : List Char :=
  if isCommand c then ['\\', 'x'] ++ (Text.hexDigits c.toNat).leftpad 2 '0'
  else if isUpperControl c then ['\\', 'u', '\x7b'] ++ Text.hexDigits c.toNat ++ ['\x7d']
  else [c]

/-- A message as it stands in the plain log. -/
def plain (message : String) : String := String.ofList (message.toList.flatMap escape)

/-! ### What is left -/

theorem isSafe_digitChar (d : Nat) : isSafe (Nat.digitChar d) = true := by
  by_cases h : d < 16
  · have hall : ∀ e < 16, isSafe (Nat.digitChar e) = true := by decide
    exact hall d h
  · have hd : Nat.digitChar d = '*' := by
      rw [Nat.digitChar]
      repeat rw [if_neg (by omega)]
    rw [hd]
    rfl

theorem isSafe_of_mem_toDigitsCore {base fuel n : Nat} {acc : List Char}
    (hacc : ∀ x ∈ acc, isSafe x = true) :
    ∀ x ∈ Nat.toDigitsCore base fuel n acc, isSafe x = true := by
  induction fuel generalizing n acc with
  | zero => exact hacc
  | succ fuel ih =>
    intro x hx
    have hcons : ∀ y ∈ Nat.digitChar (n % base) :: acc, isSafe y = true := by
      intro y hy
      rcases List.mem_cons.1 hy with rfl | hy
      · exact isSafe_digitChar _
      · exact hacc y hy
    rw [Nat.toDigitsCore] at hx
    split at hx
    · exact hcons x hx
    · exact ih hcons x hx

theorem isSafe_of_mem_hexDigits {n : Nat} {x : Char} (h : x ∈ Text.hexDigits n) : isSafe x = true := by
  refine isSafe_of_mem_toDigitsCore ?_ x h
  intro y hy
  simp at hy

/-- No character of a written form is one that a terminal obeys. -/
theorem isSafe_of_mem_escape {c x : Char} (h : x ∈ escape c) : isSafe x = true := by
  unfold escape at h
  split at h
  · rw [List.leftpad] at h
    simp only [List.mem_append, List.mem_cons, List.not_mem_nil, or_false, List.mem_replicate] at h
    rcases h with (rfl | rfl) | ⟨_, rfl⟩ | h
    · rfl
    · rfl
    · rfl
    · exact isSafe_of_mem_hexDigits h
  · split at h
    · simp only [List.mem_append, List.mem_cons, List.not_mem_nil, or_false] at h
      rcases h with ((rfl | rfl | rfl) | h) | rfl
      · rfl
      · rfl
      · rfl
      · exact isSafe_of_mem_hexDigits h
      · rfl
    · simp only [List.mem_cons, List.not_mem_nil, or_false] at h
      subst h
      simp_all [isSafe]

example : plain "a\x1b[1m\x07\tb" = "a\\x1b[1m\\x07\tb" := by decide +kernel
example : plain "\u0085" = "\\u\x7b85\x7d" := by decide +kernel

end NodeVolumes.LogLine
