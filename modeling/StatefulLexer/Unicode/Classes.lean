/-
The classes of characters that patterns have short names for.

Digits, spaces and word characters, each over all characters and over ASCII
alone.
-/
import StatefulLexer.Unicode.GeneralCategory
import StatefulLexer.Unicode.BinaryProperty

set_option autoImplicit false

namespace StatefulLexer.CharSet

/-! ## Over all characters -/

/-- The spaces: blanks of all widths, tabs, line and paragraph ends. -/
def space : CharSet :=
  ⟨[⟨0x09, 0x0D⟩, ⟨0x20, 0x20⟩, ⟨0x85, 0x85⟩, ⟨0xA0, 0xA0⟩, ⟨0x1680, 0x1680⟩, ⟨0x2000, 0x200A⟩,
    ⟨0x2028, 0x2029⟩, ⟨0x202F, 0x202F⟩, ⟨0x205F, 0x205F⟩, ⟨0x3000, 0x3000⟩]⟩

/-- The decimal digits. -/
def digit : CharSet := GeneralCategory.digits

/-- **The word characters:** letters and what is used like them, marks, digits,
connecting punctuation, and the two joiners. -/
def word : CharSet :=
  CharSet.unions [BinaryProperty.alphabetic, GeneralCategory.marks, GeneralCategory.digits,
    GeneralCategory.connectors, BinaryProperty.joinControl]

/-! ## Over ASCII -/

/-- The ASCII spaces. -/
def asciiSpace : CharSet := ⟨[⟨0x09, 0x0D⟩, ⟨0x20, 0x20⟩]⟩

/-- The ASCII digits. -/
def asciiDigit : CharSet := ⟨[⟨0x30, 0x39⟩]⟩

/-- The ASCII word characters. -/
def asciiWord : CharSet := ⟨[⟨0x30, 0x39⟩, ⟨0x41, 0x5A⟩, ⟨0x5F, 0x5F⟩, ⟨0x61, 0x7A⟩]⟩

end StatefulLexer.CharSet
