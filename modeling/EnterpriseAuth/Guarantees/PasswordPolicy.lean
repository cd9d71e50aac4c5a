import EnterpriseAuth.Guarantees.Scenario
import EnterpriseAuth.Requests.MailedTokens

/-!
# What an accepted password contains

The rules for letters go by ASCII, the rule for a digit by Unicode, and the rule for a symbol takes
every character outside `[A-Za-z0-9]`.  So a letter or a digit outside ASCII counts as the symbol,
and a digit outside ASCII counts twice.
-/

namespace EnterpriseAuth

open Effects Program

variable {T : Type} {env : Environment T}

/-! ## Letters and digits in the sense of Unicode -/

/-- The letters of Unicode, next to the digits that `\d` matches. -/
structure UnicodeClasses (env : Environment T) where
  letter : Char → Bool
  lowercase : Char → Bool
  uppercase : Char → Bool
  lowercase_of_ascii : ∀ character, isLowerAscii character → lowercase character
  uppercase_of_ascii : ∀ character, isUpperAscii character → uppercase character
  letter_of_lowercase : ∀ character, lowercase character → letter character
  letter_of_uppercase : ∀ character, uppercase character → letter character
  one_case : ∀ character, lowercase character → uppercase character = false
  decimal_of_ascii : ∀ character, isDigitAscii character → env.isDecimal character
  not_decimal_of_letter : ∀ character, letter character → env.isDecimal character = false

/-- A symbol is neither a letter nor a digit. -/
def UnicodeClasses.symbol (classes : UnicodeClasses env) (character : Char) : Bool :=
  !(classes.letter character || env.isDecimal character)

/-- Four different characters of the password, one of each class. -/
structure UnicodeClasses.Covers (classes : UnicodeClasses env) (password : String)
    (lower upper digit sign : Char) : Prop where
  within : ∀ character ∈ [lower, upper, digit, sign], character ∈ password.toList
  lowercase : classes.lowercase lower
  uppercase : classes.uppercase upper
  decimal : env.isDecimal digit
  symbol : classes.symbol sign
  different : [lower, upper, digit, sign].Nodup

/-- What the policy promises of an accepted password. -/
structure UnicodeClasses.Strong (classes : UnicodeClasses env) (password : String) : Prop where
  long : 8 ≤ password.toList.length
  covered : ∃ lower upper digit sign, classes.Covers password lower upper digit sign
  uncommon : env.lower password ∉ commonPasswords

def isAsciiAlphanumeric (character : Char) : Bool :=
  isLowerAscii character || isUpperAscii character || isDigitAscii character

/-- Letters and digits only, at least one of them outside ASCII, and the other rules are met. -/
structure UnicodeClasses.Disguised (classes : UnicodeClasses env) (password : String) : Prop where
  long : 8 ≤ password.toList.length
  lower : password.toList.any isLowerAscii
  upper : password.toList.any isUpperAscii
  digit : password.toList.any env.isDecimal
  uncommon : env.lower password ∉ commonPasswords
  foreign : ∃ character ∈ password.toList, isAsciiAlphanumeric character = false
  alphanumeric : ∀ character ∈ password.toList, classes.symbol character = false

variable {classes : UnicodeClasses env} {password : String}

/-- The four classes have no character in common. -/
theorem UnicodeClasses.nodup_of_classes {lower upper digit sign : Char}
    (lowercase : classes.lowercase lower) (uppercase : classes.uppercase upper)
    (decimal : env.isDecimal digit) (symbol : classes.symbol sign) :
    [lower, upper, digit, sign].Nodup := by
  have lowerLetter := classes.letter_of_lowercase lower lowercase
  have upperLetter := classes.letter_of_uppercase upper uppercase
  have oneCase := classes.one_case lower lowercase
  have lowerDigit := classes.not_decimal_of_letter lower lowerLetter
  have upperDigit := classes.not_decimal_of_letter upper upperLetter
  simp only [UnicodeClasses.symbol, Bool.not_eq_true', Bool.or_eq_false_iff] at symbol
  simp only [List.nodup_cons, List.mem_cons, List.not_mem_nil, or_false, not_or]
  grind

/-! ## What the validation checks -/

theorem passwordProblems_eq_nil :
    passwordProblems env password = [] ↔
      8 ≤ password.toList.length ∧ password.toList.any isLowerAscii ∧
        password.toList.any isUpperAscii ∧ password.toList.any env.isDecimal ∧
          ∃ character ∈ password.toList, isAsciiAlphanumeric character = false := by
  simp [passwordProblems, isAsciiAlphanumeric, and_assoc]

variable [CommRing T] [LinearOrder T]

theorem validatePasswordStrength_iff (server : Server T) :
    ((validatePasswordStrength env password).run handle server).1 = .ok () ↔
      passwordProblems env password = [] ∧ env.lower password ∉ commonPasswords := by
  simp only [validatePasswordStrength, throw_bind, run_ite, run_throw, run_pure]
  by_cases sound : passwordProblems env password = []
  · by_cases common : env.lower password ∈ commonPasswords
    · simp [sound, common]
    · simp [sound, common]
  · simp [sound]

/-! ## Soundness -/

/-- An accepted password keeps the promise, unless it consists of letters and digits with one
outside ASCII. -/
theorem accepted_password_strong_iff (classes : UnicodeClasses env) (password : String)
    (server : Server T) :
    (((validatePasswordStrength env password).run handle server).1 = .ok () →
        classes.Strong password) ↔ ¬ classes.Disguised password := by
  rw [validatePasswordStrength_iff, passwordProblems_eq_nil]
  constructor
  · intro strong disguised
    obtain ⟨-, ⟨lower, upper, digit, sign, covers⟩, -⟩ := strong
      ⟨⟨disguised.long, disguised.lower, disguised.upper, disguised.digit, disguised.foreign⟩,
        disguised.uncommon⟩
    have plain := disguised.alphanumeric sign (covers.within sign (by simp))
    rw [covers.symbol] at plain
    cases plain
  · rintro undisguised ⟨⟨long, lower, upper, digit, foreign⟩, uncommon⟩
    have someSign : ∃ sign ∈ password.toList, classes.symbol sign := by
      by_contra none
      push Not at none
      exact undisguised ⟨long, lower, upper, digit, uncommon, foreign, by simpa using none⟩
    obtain ⟨sign, signWithin, symbol⟩ := someSign
    obtain ⟨low, lowWithin, lowercase⟩ := List.any_eq_true.mp lower
    obtain ⟨up, upWithin, uppercase⟩ := List.any_eq_true.mp upper
    obtain ⟨number, numberWithin, decimal⟩ := List.any_eq_true.mp digit
    have lowercase := classes.lowercase_of_ascii low lowercase
    have uppercase := classes.uppercase_of_ascii up uppercase
    refine ⟨long, ⟨low, up, number, sign, ?_, lowercase, uppercase, decimal, symbol, ?_⟩, uncommon⟩
    · simp [lowWithin, upWithin, numberWithin, signWithin]
    · exact classes.nodup_of_classes lowercase uppercase decimal symbol

/-! ## A digit that counts twice -/

theorem isLowerAscii_iff (character : Char) :
    isLowerAscii character ↔ 97 ≤ character.toNat ∧ character.toNat ≤ 122 := by
  simp [isLowerAscii, Char.le_def, UInt32.le_iff_toNat_le]

theorem isUpperAscii_iff (character : Char) :
    isUpperAscii character ↔ 65 ≤ character.toNat ∧ character.toNat ≤ 90 := by
  simp [isUpperAscii, Char.le_def, UInt32.le_iff_toNat_le]

/-- The digits of the small deployment lie below the letters or far behind them. -/
theorem demo_isDecimal {character : Char} (decimal : demo.isDecimal character) :
    character.toNat ≤ 57 ∨ 0xFF10 ≤ character.toNat := by
  simp only [demo, Bool.or_eq_true, bne_iff_ne, nfkcDigit] at decimal
  cases decimal with
  | inl digit =>
    simp only [Char.isDigit, Bool.and_eq_true, decide_eq_true_eq, UInt32.le_iff_toNat_le] at digit
    exact .inl digit.2
  | inr wide =>
    split at wide
    next range =>
      simp only [Bool.and_eq_true, decide_eq_true_eq] at range
      exact .inr range.1
    next => exact absurd rfl wide

theorem isUpperAscii_eq_false {character : Char} (lowercase : isLowerAscii character) :
    isUpperAscii character = false := by
  rw [isLowerAscii_iff] at lowercase
  rw [Bool.eq_false_iff, Ne, isUpperAscii_iff]
  omega

theorem demo_isDecimal_of_ascii {character : Char} (digit : isDigitAscii character) :
    demo.isDecimal character := by
  simp only [isDigitAscii, Bool.and_eq_true, decide_eq_true_eq, Char.le_def] at digit
  rw [demo, Bool.or_eq_true, Char.isDigit, Bool.and_eq_true, decide_eq_true_eq, decide_eq_true_eq]
  exact .inl digit

theorem demo_isDecimal_eq_false {character : Char}
    (letter : (isLowerAscii character || isUpperAscii character) = true) :
    demo.isDecimal character = false := by
  rw [Bool.or_eq_true, isLowerAscii_iff, isUpperAscii_iff] at letter
  rw [Bool.eq_false_iff]
  intro decimal
  have range := demo_isDecimal decimal
  omega

/-- The ASCII letters are the only letters of the small deployment. -/
def demoClasses : UnicodeClasses demo where
  letter character := isLowerAscii character || isUpperAscii character
  lowercase := isLowerAscii
  uppercase := isUpperAscii
  lowercase_of_ascii _ := id
  uppercase_of_ascii _ := id
  letter_of_lowercase _ lowercase := Bool.or_eq_true_iff.mpr (.inl lowercase)
  letter_of_uppercase _ uppercase := Bool.or_eq_true_iff.mpr (.inr uppercase)
  one_case _ := isUpperAscii_eq_false
  decimal_of_ascii _ := demo_isDecimal_of_ascii
  not_decimal_of_letter _ := demo_isDecimal_eq_false

/-- The full-width digit is the digit and the symbol of this password. -/
theorem accepted_without_symbol :
    ¬ ∀ password : String,
      ((validatePasswordStrength demo password).run handle World.new.server).1 = .ok () →
        demoClasses.Strong password := by
  intro strong
  have disguised : demoClasses.Disguised "Aaaaaaa\uff11" :=
    { long := by decide
      lower := by decide
      upper := by decide
      digit := by decide
      uncommon := by decide
      foreign := ⟨'\uff11', by simp, by decide⟩
      alphanumeric := by simp; decide }
  obtain ⟨-, ⟨lower, upper, digit, sign, covers⟩, -⟩ := strong "Aaaaaaa\uff11" (by
    rw [validatePasswordStrength_iff, passwordProblems_eq_nil]
    exact ⟨⟨disguised.long, disguised.lower, disguised.upper, disguised.digit, disguised.foreign⟩,
      disguised.uncommon⟩)
  have plain := disguised.alphanumeric sign (covers.within sign (by simp))
  rw [covers.symbol] at plain
  cases plain

end EnterpriseAuth
