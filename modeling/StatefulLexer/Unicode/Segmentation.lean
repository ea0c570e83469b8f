/-
How characters take part in cutting text into pieces.

Text is cut into the signs a reader sees, into words and into sentences. Each of
the three has a table with the role of every character; a character without a
role has the label `-`, and nobody can ask for those.
-/
import StatefulLexer.Unicode.RunLength

set_option autoImplicit false

namespace StatefulLexer.Segmentation

/-- A role: its label in the table, and its names in loose spelling. -/
structure Role where
  label : String
  names : List String

/-- The characters with the role that a name in loose spelling asks for. -/
def withRole? (table : String) (roles : List Role) (name : String) : Option CharSet :=
  (roles.find? (·.names.contains name)).map fun role =>
    RunLength.labelled (RunLength.runs table) (· == role.label)

/-! ## Signs -/

/-- The roles in a sign, in code order, as run lengths. -/
def graphemeTable : String :=
  "Cn10 Lf1 Cn2 Cr1 Cn18 -95 Cn33 -13 Cn1 -594 Ex112 -275 Ex7 -263 Ex45 -1 Ex1 -1 Ex2 -1
    Ex2 -1 Ex1 -56 Pp6 -10 Ex11 -1 Cn1 -46 Ex21 -16 Ex1 -101 Ex7 Pp1 -1 Ex6 -2 Ex2 -1 Ex4
    -33 Pp1 -1 Ex1 -30 Ex27 -91 Ex11 -58 Ex9 -9 Ex1 -24 Ex4 -1 Ex9 -1 Ex3 -1 Ex5 -43 Ex3 -52
    Pp2 -5 Ex9 -42 Ex24 Pp1 Ex32 Sm1 -54 Ex1 Sm1 Ex1 -1 Sm3 Ex8 Sm4 Ex1 Sm2 -1 Ex7 -10 Ex2
    -29 Ex1 Sm2 -56 Ex1 -1 Ex1 Sm2 Ex4 -2 Sm2 -2 Sm2 Ex1 -9 Ex1 -10 Ex2 -26 Ex1 -2 Ex2 Sm1
    -56 Ex1 -1 Sm3 Ex2 -4 Ex2 -2 Ex3 -3 Ex1 -30 Ex2 -3 Ex1 -11 Ex2 Sm1 -56 Ex1 -1 Sm3 Ex5 -1
    Ex2 Sm1 -1 Sm2 Ex1 -20 Ex2 -22 Ex6 -1 Ex1 Sm2 -56 Ex1 -1 Ex2 Sm1 Ex4 -2 Sm2 -2 Sm2 Ex1
    -7 Ex3 -10 Ex2 -30 Ex1 -59 Ex1 Sm1 Ex1 Sm2 -3 Sm3 -1 Sm3 Ex1 -9 Ex1 -40 Ex1 Sm3 Ex1 -55
    Ex1 -1 Ex3 Sm4 -1 Ex3 -1 Ex4 -7 Ex2 -11 Ex2 -29 Ex1 Sm2 -56 Ex1 -1 Sm1 Ex2 Sm1 Ex1 Sm2
    -1 Ex3 -1 Ex4 -7 Ex2 -11 Ex2 -15 Sm1 -12 Ex2 Sm2 -55 Ex2 -1 Ex1 Sm2 Ex4 -1 Sm3 -1 Sm3
    Ex1 Pp1 -8 Ex1 -10 Ex2 -29 Ex1 Sm2 -70 Ex1 -4 Ex1 Sm2 Ex3 -1 Ex1 -1 Sm7 Ex1 -18 Sm2 -61
    Ex1 -1 Sm1 Ex7 -12 Ex8 -98 Ex1 -1 Sm1 Ex9 -11 Ex7 -73 Ex2 -27 Ex1 -1 Ex1 -1 Ex1 -4 Sm2
    -49 Ex14 Sm1 Ex5 -1 Ex2 -5 Ex11 -1 Ex36 -9 Ex1 -102 Ex4 Sm1 Ex6 -1 Ex2 Sm2 Ex2 -23 Sm2
    Ex2 -4 Ex3 -16 Ex4 -13 Ex1 -1 Sm1 Ex2 -6 Ex1 -15 Ex1 -98 L96 V72 T88 -349 Ex3 -946 Ex4
    -28 Ex3 -29 Ex2 -30 Ex2 -64 Ex2 Sm1 Ex7 Sm8 Ex1 Sm2 Ex11 -9 Ex1 -45 Ex3 Cn1 Ex1 -117 Ex2
    -34 Ex1 -118 Ex3 Sm4 Ex2 Sm3 -4 Sm2 Ex1 Sm6 Ex3 -219 Ex2 Sm2 Ex1 -57 Sm1 Ex1 Sm1 Ex7 -1
    Ex1 -1 Ex1 -2 Ex8 Sm6 Ex10 -2 Ex1 -48 Ex31 -49 Ex4 Sm1 -47 Ex10 Sm4 Ex3 -38 Ex9 -12 Ex2
    Sm1 -30 Sm1 Ex4 Sm2 Ex6 -56 Ex1 Sm1 Ex2 Sm3 Ex1 Sm1 Ex5 -48 Sm8 Ex8 Sm2 Ex2 -152 Ex3 -1
    Ex13 Sm1 Ex7 -4 Ex1 -6 Ex1 -2 Sm1 Ex2 -198 Ex64 -523 Cn1 Ex1 Zwj1 Cn2 -24 Cn7 -49 Cn16
    -96 Ex33 -3070 Ex3 -141 Ex1 -96 Ex32 -554 Ex6 -105 Ex2 -30164 Ex4 -1 Ex10 -32 Ex2 -80
    Ex2 -272 Ex1 -3 Ex1 -4 Ex1 -23 Sm2 Ex2 Sm1 -4 Ex1 -83 Sm2 -50 Sm16 Ex2 -26 Ex18 -13 Ex1
    -38 Ex8 -25 Ex11 Sm1 Ex1 -12 L29 -3 Ex3 Sm1 -47 Ex1 Sm2 Ex4 Sm2 Ex2 Sm2 Ex1 -36 Ex1 -67
    Ex6 Sm2 Ex2 Sm2 Ex2 -12 Ex1 -8 Ex1 Sm1 -46 Ex1 -51 Ex1 -1 Ex3 -2 Ex2 -5 Ex2 -1 Ex1 -41
    Sm1 Ex2 Sm2 -5 Sm1 Ex1 -236 Sm2 Ex1 Sm2 Ex1 Sm2 -1 Sm1 Ex1 -18 Lv1 Lvt27 Lv1 Lvt27 Lv1
    Lvt27 Lv1 Lvt27 Lv1 Lvt27 Lv1 Lvt27 Lv1 Lvt27 Lv1 Lvt27 Lv1 Lvt27 Lv1 Lvt27 Lv1 Lvt27
    Lv1 Lvt27 Lv1 Lvt27 Lv1 Lvt27 Lv1 Lvt27 Lv1 Lvt27 Lv1 Lvt27 Lv1 Lvt27 Lv1 Lvt27 Lv1
    Lvt27 Lv1 Lvt27 Lv1 Lvt27 Lv1 Lvt27 Lv1 Lvt27 Lv1 Lvt27 Lv1 Lvt27 Lv1 Lvt27 Lv1 Lvt27
    Lv1 Lvt27 Lv1 Lvt27 Lv1 Lvt27 Lv1 Lvt27 Lv1 Lvt27 Lv1 Lvt27 Lv1 Lvt27 Lv1 Lvt27 Lv1
    Lvt27 Lv1 Lvt27 Lv1 Lvt27 Lv1 Lvt27 Lv1 Lvt27 Lv1 Lvt27 Lv1 Lvt27 Lv1 Lvt27 Lv1 Lvt27
    Lv1 Lvt27 Lv1 Lvt27 Lv1 Lvt27 Lv1 Lvt27 Lv1 Lvt27 Lv1 Lvt27 Lv1 Lvt27 Lv1 Lvt27 Lv1
    Lvt27 Lv1 Lvt27 Lv1 Lvt27 Lv1 Lvt27 Lv1 Lvt27 Lv1 Lvt27 Lv1 Lvt27 Lv1 Lvt27 Lv1 Lvt27
    Lv1 Lvt27 Lv1 Lvt27 Lv1 Lvt27 Lv1 Lvt27 Lv1 Lvt27 Lv1 Lvt27 Lv1 Lvt27 Lv1 Lvt27 Lv1
    Lvt27 Lv1 Lvt27 Lv1 Lvt27 Lv1 Lvt27 Lv1 Lvt27 Lv1 Lvt27 Lv1 Lvt27 Lv1 Lvt27 Lv1 Lvt27
    Lv1 Lvt27 Lv1 Lvt27 Lv1 Lvt27 Lv1 Lvt27 Lv1 Lvt27 Lv1 Lvt27 Lv1 Lvt27 Lv1 Lvt27 Lv1
    Lvt27 Lv1 Lvt27 Lv1 Lvt27 Lv1 Lvt27 Lv1 Lvt27 Lv1 Lvt27 Lv1 Lvt27 Lv1 Lvt27 Lv1 Lvt27
    Lv1 Lvt27 Lv1 Lvt27 Lv1 Lvt27 Lv1 Lvt27 Lv1 Lvt27 Lv1 Lvt27 Lv1 Lvt27 Lv1 Lvt27 Lv1
    Lvt27 Lv1 Lvt27 Lv1 Lvt27 Lv1 Lvt27 Lv1 Lvt27 Lv1 Lvt27 Lv1 Lvt27 Lv1 Lvt27 Lv1 Lvt27
    Lv1 Lvt27 Lv1 Lvt27 Lv1 Lvt27 Lv1 Lvt27 Lv1 Lvt27 Lv1 Lvt27 Lv1 Lvt27 Lv1 Lvt27 Lv1
    Lvt27 Lv1 Lvt27 Lv1 Lvt27 Lv1 Lvt27 Lv1 Lvt27 Lv1 Lvt27 Lv1 Lvt27 Lv1 Lvt27 Lv1 Lvt27
    Lv1 Lvt27 Lv1 Lvt27 Lv1 Lvt27 Lv1 Lvt27 Lv1 Lvt27 Lv1 Lvt27 Lv1 Lvt27 Lv1 Lvt27 Lv1
    Lvt27 Lv1 Lvt27 Lv1 Lvt27 Lv1 Lvt27 Lv1 Lvt27 Lv1 Lvt27 Lv1 Lvt27 Lv1 Lvt27 Lv1 Lvt27
    Lv1 Lvt27 Lv1 Lvt27 Lv1 Lvt27 Lv1 Lvt27 Lv1 Lvt27 Lv1 Lvt27 Lv1 Lvt27 Lv1 Lvt27 Lv1
    Lvt27 Lv1 Lvt27 Lv1 Lvt27 Lv1 Lvt27 Lv1 Lvt27 Lv1 Lvt27 Lv1 Lvt27 Lv1 Lvt27 Lv1 Lvt27
    Lv1 Lvt27 Lv1 Lvt27 Lv1 Lvt27 Lv1 Lvt27 Lv1 Lvt27 Lv1 Lvt27 Lv1 Lvt27 Lv1 Lvt27 Lv1
    Lvt27 Lv1 Lvt27 Lv1 Lvt27 Lv1 Lvt27 Lv1 Lvt27 Lv1 Lvt27 Lv1 Lvt27 Lv1 Lvt27 Lv1 Lvt27
    Lv1 Lvt27 Lv1 Lvt27 Lv1 Lvt27 Lv1 Lvt27 Lv1 Lvt27 Lv1 Lvt27 Lv1 Lvt27 Lv1 Lvt27 Lv1
    Lvt27 Lv1 Lvt27 Lv1 Lvt27 Lv1 Lvt27 Lv1 Lvt27 Lv1 Lvt27 Lv1 Lvt27 Lv1 Lvt27 Lv1 Lvt27
    Lv1 Lvt27 Lv1 Lvt27 Lv1 Lvt27 Lv1 Lvt27 Lv1 Lvt27 Lv1 Lvt27 Lv1 Lvt27 Lv1 Lvt27 Lv1
    Lvt27 Lv1 Lvt27 Lv1 Lvt27 Lv1 Lvt27 Lv1 Lvt27 Lv1 Lvt27 Lv1 Lvt27 Lv1 Lvt27 Lv1 Lvt27
    Lv1 Lvt27 Lv1 Lvt27 Lv1 Lvt27 Lv1 Lvt27 Lv1 Lvt27 Lv1 Lvt27 Lv1 Lvt27 Lv1 Lvt27 Lv1
    Lvt27 Lv1 Lvt27 Lv1 Lvt27 Lv1 Lvt27 Lv1 Lvt27 Lv1 Lvt27 Lv1 Lvt27 Lv1 Lvt27 Lv1 Lvt27
    Lv1 Lvt27 Lv1 Lvt27 Lv1 Lvt27 Lv1 Lvt27 Lv1 Lvt27 Lv1 Lvt27 Lv1 Lvt27 Lv1 Lvt27 Lv1
    Lvt27 Lv1 Lvt27 Lv1 Lvt27 Lv1 Lvt27 Lv1 Lvt27 Lv1 Lvt27 Lv1 Lvt27 Lv1 Lvt27 Lv1 Lvt27
    Lv1 Lvt27 Lv1 Lvt27 Lv1 Lvt27 Lv1 Lvt27 Lv1 Lvt27 Lv1 Lvt27 Lv1 Lvt27 Lv1 Lvt27 Lv1
    Lvt27 Lv1 Lvt27 Lv1 Lvt27 Lv1 Lvt27 Lv1 Lvt27 Lv1 Lvt27 Lv1 Lvt27 Lv1 Lvt27 Lv1 Lvt27
    Lv1 Lvt27 Lv1 Lvt27 Lv1 Lvt27 Lv1 Lvt27 Lv1 Lvt27 Lv1 Lvt27 Lv1 Lvt27 Lv1 Lvt27 Lv1
    Lvt27 Lv1 Lvt27 Lv1 Lvt27 Lv1 Lvt27 Lv1 Lvt27 Lv1 Lvt27 Lv1 Lvt27 Lv1 Lvt27 Lv1 Lvt27
    Lv1 Lvt27 Lv1 Lvt27 Lv1 Lvt27 Lv1 Lvt27 Lv1 Lvt27 Lv1 Lvt27 Lv1 Lvt27 Lv1 Lvt27 Lv1
    Lvt27 Lv1 Lvt27 Lv1 Lvt27 Lv1 Lvt27 Lv1 Lvt27 Lv1 Lvt27 Lv1 Lvt27 Lv1 Lvt27 Lv1 Lvt27
    Lv1 Lvt27 Lv1 Lvt27 Lv1 Lvt27 Lv1 Lvt27 Lv1 Lvt27 Lv1 Lvt27 Lv1 Lvt27 Lv1 Lvt27 Lv1
    Lvt27 Lv1 Lvt27 Lv1 Lvt27 Lv1 Lvt27 Lv1 Lvt27 Lv1 Lvt27 Lv1 Lvt27 Lv1 Lvt27 Lv1 Lvt27
    Lv1 Lvt27 Lv1 Lvt27 Lv1 Lvt27 Lv1 Lvt27 Lv1 Lvt27 Lv1 Lvt27 Lv1 Lvt27 Lv1 Lvt27 Lv1
    Lvt27 Lv1 Lvt27 Lv1 Lvt27 Lv1 Lvt27 Lv1 Lvt27 Lv1 Lvt27 Lv1 Lvt27 Lv1 Lvt27 Lv1 Lvt27
    Lv1 Lvt27 Lv1 Lvt27 Lv1 Lvt27 Lv1 Lvt27 Lv1 Lvt27 Lv1 Lvt27 Lv1 Lvt27 Lv1 Lvt27 Lv1
    Lvt27 Lv1 Lvt27 Lv1 Lvt27 Lv1 Lvt27 Lv1 Lvt27 Lv1 Lvt27 Lv1 Lvt27 Lv1 Lvt27 Lv1 Lvt27
    Lv1 Lvt27 Lv1 Lvt27 Lv1 Lvt27 Lv1 Lvt27 Lv1 Lvt27 Lv1 Lvt27 Lv1 Lvt27 Lv1 Lvt27 Lv1
    Lvt27 Lv1 Lvt27 Lv1 Lvt27 Lv1 Lvt27 Lv1 Lvt27 Lv1 Lvt27 Lv1 Lvt27 Lv1 Lvt27 Lv1 Lvt27
    Lv1 Lvt27 Lv1 Lvt27 Lv1 Lvt27 Lv1 Lvt27 Lv1 Lvt27 Lv1 Lvt27 Lv1 Lvt27 Lv1 Lvt27 Lv1
    Lvt27 Lv1 Lvt27 Lv1 Lvt27 Lv1 Lvt27 Lv1 Lvt27 Lv1 Lvt27 Lv1 Lvt27 Lv1 Lvt27 Lv1 Lvt27
    Lv1 Lvt27 Lv1 Lvt27 Lv1 Lvt27 Lv1 Lvt27 Lv1 Lvt27 Lv1 Lvt27 Lv1 Lvt27 Lv1 Lvt27 Lv1
    Lvt27 Lv1 Lvt27 Lv1 Lvt27 Lv1 Lvt27 Lv1 Lvt27 Lv1 Lvt27 -12 V23 -4 T49 -8994 Ex1 -737
    Ex16 -16 Ex16 -207 Cn1 -158 Ex2 -80 Cn12 -513 Ex1 -226 Ex1 -149 Ex5 -1670 Ex3 -1 Ex2 -5
    Ex4 -40 Ex3 -4 Ex1 -165 Ex2 -573 Ex4 -65 Ex5 -317 Ex2 -79 Ex4 -70 Ex11 -49 Ex4 -122 Sm1
    Ex1 Sm1 -53 Ex15 -41 Ex1 -2 Ex2 -10 Ex3 Sm1 -45 Sm3 Ex4 Sm2 Ex2 -2 Pp1 -4 Ex1 -10 Pp1
    -50 Ex3 -36 Ex5 Sm1 Ex8 -16 Sm2 -44 Ex1 -12 Ex2 Sm1 -48 Sm3 Ex9 Sm1 Ex1 -1 Pp2 -5 Ex4 -1
    Sm1 Ex1 -92 Sm3 Ex3 Sm2 Ex4 -6 Ex1 -2 Ex1 -157 Ex1 Sm3 Ex8 -21 Ex2 Sm2 -55 Ex2 -1 Ex1
    Sm1 Ex1 Sm4 -2 Sm2 -2 Sm2 Ex1 -9 Ex1 -10 Sm2 -2 Ex7 -3 Ex5 -67 Ex1 Sm2 Ex6 -1 Ex1 -2 Ex1
    -1 Ex3 Sm1 -1 Sm2 Ex3 Pp1 Ex1 -14 Ex2 -82 Sm3 Ex8 Sm2 Ex3 Sm1 Ex1 -23 Ex1 -81 Ex1 Sm2
    Ex6 Sm1 Ex1 Sm2 Ex1 Sm1 Ex2 Sm1 Ex2 -235 Ex1 Sm2 Ex4 -2 Sm4 Ex2 Sm1 Ex2 -27 Ex2 -82 Sm3
    Ex8 Sm2 Ex1 Sm1 Ex2 -106 Ex1 Sm1 Ex1 Sm2 Ex8 -101 Ex1 Sm1 Ex1 -2 Ex4 Sm1 Ex5 -256 Sm3
    Ex9 Sm1 Ex2 -245 Ex1 Sm5 -1 Sm2 -2 Ex4 Pp1 Sm1 Pp1 Sm1 Ex1 -141 Sm3 Ex4 -2 Ex2 Sm4 Ex1
    -3 Sm1 -28 Ex10 -40 Ex6 Sm1 Pp1 Ex4 -8 Ex1 -9 Ex6 Sm2 Ex3 -40 Pp6 Ex13 Sm1 Ex2 -405 Sm1
    Ex7 -1 Ex6 Sm1 Ex1 -82 Ex22 -1 Sm1 Ex7 Sm1 Ex2 Sm1 Ex2 -122 Ex6 -3 Ex1 -1 Ex2 -1 Ex7 Pp1
    Ex1 -66 Sm5 -1 Ex2 -1 Sm2 Ex1 Sm1 Ex1 -347 Ex2 Sm2 -9 Ex2 Pp1 Sm1 -48 Sm2 Ex5 -3 Sm2 Ex3
    -23 Ex1 -5333 Cn16 Ex1 -6 Ex15 -11464 Ex12 Sm3 Ex3 -2496 Ex5 -59 Ex7 -556 V1 -3 V4 -484
    Ex1 -1 Sm55 -7 Ex4 -81 Ex1 -11 Ex2 -19627 Ex2 -1 Cn4 -4700 Ex46 -2 Ex23 -542 Ex5 -3 Ex6
    Cn8 Ex8 -2 Ex7 -30 Ex4 -148 Ex3 -1979 Ex55 -4 Ex50 -8 Ex1 -14 Ex1 -22 Ex5 -1 Ex15 -1360
    Ex7 -1 Ex17 -2 Ex7 -1 Ex2 -1 Ex5 -100 Ex1 -160 Ex7 -375 Ex1 -61 Ex4 -508 Ex4 -254 Ex2
    -736 Ex7 -109 Ex7 -2203 Ri26 -507 Ex5 -789504 Cn32 Ex96 Cn128 Ex240 Cn3600 -192512"

/-- The roles in a sign. -/
def graphemeRoles : List Role :=
  [ ⟨"Cn", ["cn", "control"]⟩, ⟨"Cr", ["cr"]⟩, ⟨"Ex", ["ex", "extend"]⟩, ⟨"L", ["l"]⟩,
    ⟨"Lf", ["lf"]⟩, ⟨"Lv", ["lv"]⟩, ⟨"Lvt", ["lvt"]⟩, ⟨"Pp", ["pp", "prepend"]⟩,
    ⟨"Ri", ["ri", "regionalindicator"]⟩, ⟨"Sm", ["sm", "spacingmark"]⟩, ⟨"T", ["t"]⟩, ⟨"V", ["v"]⟩,
    ⟨"Zwj", ["zwj"]⟩ ]

/-- The characters with a role in a sign. -/
def grapheme? (name : String) : Option CharSet := withRole? graphemeTable graphemeRoles name

/-! ## Words -/

/-- The roles in a word, in code order, as run lengths. -/
def wordTable : String :=
  "-10 Lf1 Nl2 Cr1 -18 Ws1 -1 Dq1 -4 Sq1 -4 Mn1 -1 Mb1 -1 Nu10 Ml1 Mn1 -5 Le26 -4 Ex1 -1
    Le26 -10 Nl1 -36 Le1 -2 Fo1 -7 Le1 -1 Ml1 -2 Le1 -5 Le23 -1 Le31 -1 Le480 -6 Le34 Em112
    Le5 -1 Le2 -2 Le4 Mn1 Le1 -6 Le1 Ml1 Le3 -1 Le1 -1 Le20 -1 Le83 -1 Le139 -1 Em7 Le166 -1
    Le38 -2 Le4 -1 Le1 Ml1 Le41 Mn1 Le1 -6 Em45 -1 Em1 -1 Em2 -1 Em2 -1 Em1 -8 Hl27 -4 Hl4
    Le1 Ml1 -11 Nu6 -6 Mn2 -2 Em11 -1 Fo1 -3 Le43 Em21 Nu10 -1 Nu1 Mn1 -1 Le2 Em1 Le99 -1
    Le1 Em7 Nu1 -1 Em6 Le2 Em2 -1 Em4 Le2 Nu10 Le3 -2 Le1 -15 Le2 Em1 Le30 Em27 -2 Le89 Em11
    Le1 -14 Nu10 Le33 Em9 Le2 -2 Mn1 -1 Le1 -2 Em1 -2 Le22 Em4 Le1 Em9 Le1 Em3 Le1 Em5 -18
    Le25 Em3 -4 Le11 -5 Le24 -1 Le6 -1 Nu2 -5 Em9 Le42 Em24 Nu1 Em33 Le54 Em3 Le1 Em18 Le1
    Em7 Le10 Em2 -2 Nu10 -1 Le16 Em3 -1 Le8 -2 Le2 -2 Le22 -1 Le7 -1 Le1 -3 Le4 -2 Em1 Le1
    Em7 -2 Em2 -2 Em3 Le1 -8 Em1 -4 Le2 -1 Le3 Em2 -2 Nu10 Le2 -10 Le1 -1 Em1 -2 Em3 -1 Le6
    -4 Le2 -2 Le22 -1 Le7 -1 Le2 -1 Le2 -1 Le2 -2 Em1 -1 Em5 -4 Em2 -2 Em3 -3 Em1 -7 Le4 -1
    Le1 -7 Nu10 Em2 Le3 Em1 -11 Em3 -1 Le9 -1 Le3 -1 Le22 -1 Le7 -1 Le2 -1 Le5 -2 Em1 Le1
    Em8 -1 Em3 -1 Em3 -2 Le1 -15 Le2 Em2 -2 Nu10 -9 Le1 Em6 -1 Em3 -1 Le8 -2 Le2 -2 Le22 -1
    Le7 -1 Le2 -1 Le5 -2 Em1 Le1 Em7 -2 Em2 -2 Em3 -7 Em3 -4 Le2 -1 Le3 Em2 -2 Nu10 -1 Le1
    -16 Em1 Le1 -1 Le6 -3 Le3 -1 Le4 -3 Le2 -1 Le1 -1 Le2 -3 Le2 -3 Le3 -3 Le12 -4 Em5 -3
    Em3 -1 Em4 -2 Le1 -6 Em1 -14 Nu10 -16 Em5 Le8 -1 Le3 -1 Le23 -1 Le16 -2 Em1 Le1 Em7 -1
    Em3 -1 Em4 -7 Em2 -1 Le3 -2 Le1 -2 Le2 Em2 -2 Nu10 -16 Le1 Em3 -1 Le8 -1 Le3 -1 Le23 -1
    Le10 -1 Le5 -2 Em1 Le1 Em7 -1 Em3 -1 Em4 -7 Em2 -6 Le2 -1 Le2 Em2 -2 Nu10 -1 Le2 Em1 -12
    Em4 Le9 -1 Le3 -1 Le41 Em2 Le1 Em7 -1 Em3 -1 Em4 Le1 -5 Le3 Em1 -7 Le3 Em2 -2 Nu10 -10
    Le6 -1 Em3 -1 Le18 -3 Le24 -1 Le9 -1 Le1 -2 Le7 -3 Em1 -4 Em6 -1 Em1 -1 Em8 -6 Nu10 -2
    Em2 -61 Em1 -2 Em7 -12 Em8 -1 Nu10 -87 Em1 -2 Em9 -11 Em7 -1 Nu10 -38 Le1 -23 Em2 -6
    Nu10 -11 Em1 -1 Em1 -1 Em1 -4 Em2 Le8 -1 Le36 -4 Em20 -1 Em2 Le5 Em11 -1 Em36 -9 Em1
    -100 Em20 -1 Nu10 -12 Em4 -4 Em3 -1 Em3 -2 Em7 -3 Em4 -13 Em12 -1 Em1 Nu10 Em4 -2 Le38
    -1 Le1 -5 Le1 -2 Le43 -1 Le333 -1 Le4 -2 Le7 -1 Le1 -1 Le4 -2 Le41 -1 Le4 -2 Le33 -1 Le4
    -2 Le7 -1 Le1 -1 Le4 -2 Le15 -1 Le57 -1 Le4 -2 Le67 -2 Em3 -32 Le16 -16 Le86 -2 Le6 -3
    Le620 -2 Le17 Ws1 Le26 -5 Le75 -3 Le11 -7 Le18 Em4 -9 Le19 Em3 -11 Le18 Em2 -12 Le13 -1
    Le3 -1 Em2 -64 Em32 -9 Em1 -2 Nu10 -33 Em3 Fo1 Em1 Nu10 -6 Le89 -7 Le5 Em2 Le34 Em1 Le1
    -5 Le70 -10 Le31 -1 Em12 -4 Em12 -10 Nu10 -128 Nu10 -38 Le23 Em5 -57 Em10 -1 Em29 -2 Em1
    Nu10 -6 Nu10 -22 Em31 -49 Em5 Le47 Em17 Le8 -3 Nu10 -17 Em9 -12 Em3 Le30 Em13 Le2 Nu10
    Le44 Em14 -12 Le36 Em20 -8 Nu10 -3 Le3 Nu10 Le36 -2 Le11 -5 Le43 -2 Le3 -16 Em3 -1 Em21
    Le4 Em1 Le6 Em1 Le2 Em3 Le1 -5 Le192 Em64 Le278 -2 Le6 -2 Le38 -2 Le6 -2 Le8 -1 Le1 -1
    Le1 -1 Le1 -1 Le31 -2 Le53 -1 Le7 -1 Le1 -3 Le3 -1 Le7 -3 Le4 -2 Le6 -4 Le13 -5 Le3 -1
    Le7 -3 Ws7 -1 Ws3 -1 Em1 Zwj1 Fo2 -8 Mb2 -10 Mb1 -2 Ml1 Nl2 Fo5 Ex1 -15 Ex2 -3 Mn1 -15
    Ex1 -10 Ws1 Fo5 -1 Fo10 -1 Le1 -13 Le1 -16 Le13 -51 Em33 -17 Le1 -4 Le1 -2 Le10 -1 Le1
    -3 Le5 -6 Le1 -1 Le1 -1 Le1 -1 Le4 -1 Le11 -2 Le4 -5 Le5 -4 Le1 -17 Le41 -813 Le52 -1814
    Le229 -6 Le4 Em3 Le2 -12 Le38 -1 Le1 -5 Le1 -2 Le56 -7 Le1 -15 Em1 Le23 -9 Le7 -1 Le7 -1
    Le7 -1 Le7 -1 Le7 -1 Le7 -1 Le7 -1 Le7 -1 Em32 -47 Le1 -464 Ws1 -4 Le1 -36 Em6 -1 Ka5 -5
    Le2 -92 Em2 Ka2 -3 Ka91 -1 Ka4 -5 Le43 -1 Le94 -17 Le32 -48 Ka16 -208 Ka47 -1 Ka88
    -27816 Le1165 -67 Le46 -2 Le269 -3 Le16 Nu10 Le2 -20 Le47 Em4 -1 Em10 -1 Le31 Em2 Le80
    Em2 -22 Le198 -2 Le2 -1 Le1 -1 Le8 -21 Le16 Em1 Le3 Em1 Le4 Em1 Le23 Em5 -4 Em1 -19 Le52
    -12 Em2 Le50 Em18 -10 Nu10 -6 Em18 Le6 -3 Le1 -1 Le2 Em1 Nu10 Le28 Em8 -2 Le23 Em13 -12
    Le29 -3 Em4 Le47 Em14 -14 Le1 Nu10 -11 Em1 -10 Nu10 -6 Le41 Em14 -9 Le3 Em1 Le8 Em2 -2
    Nu10 -33 Em3 -50 Em1 -1 Em3 -2 Em2 -5 Em2 -1 Em1 -30 Le11 Em5 -2 Le3 Em2 -10 Le6 -2 Le6
    -2 Le6 -9 Le7 -1 Le7 -1 Le58 -6 Le115 Em8 -1 Em2 -2 Nu10 -6 Le11172 -12 Le23 -4 Le49
    -8964 Le7 -12 Le5 -5 Hl1 Em1 Hl10 -1 Hl13 -1 Hl5 -1 Hl1 -1 Hl2 -1 Hl2 -1 Hl10 Le98 -33
    Le363 -18 Le64 -2 Le54 -40 Le12 -4 Em16 -3 Ml1 -12 Em16 -3 Ex2 -24 Ex3 Mn1 -1 Mb1 -1 Mn1
    Ml1 -26 Le5 -1 Le135 -2 Fo1 -7 Mb1 -4 Mn1 -1 Mb1 -1 Nu10 Ml1 Mn1 -5 Le26 -4 Ex1 -1 Le26
    -11 Ka56 Em2 Le31 -3 Le6 -2 Le6 -2 Le6 -2 Le3 -28 Fo3 -4 Le12 -1 Le26 -1 Le19 -1 Le2 -1
    Le15 -2 Le14 -34 Le123 -69 Le53 -136 Em1 -130 Le29 -3 Le49 -15 Em1 -31 Le32 -13 Le30 -5
    Le38 Em5 -5 Le30 -2 Le36 -4 Le8 -1 Le5 -42 Le158 -2 Nu10 -6 Le36 -4 Le36 -4 Le40 -8 Le52
    -12 Le11 -1 Le15 -1 Le7 -1 Le2 -1 Le11 -1 Le15 -1 Le7 -1 Le2 -3 Le52 -12 Le311 -9 Le22
    -10 Le8 -24 Le6 -1 Le42 -1 Le9 -69 Le6 -2 Le1 -1 Le44 -1 Le2 -3 Le1 -2 Le23 -10 Le23 -9
    Le31 -65 Le19 -1 Le2 -10 Le22 -10 Le26 -70 Le56 -6 Le2 -64 Le1 Em3 -1 Em2 -5 Em4 Le4 -1
    Le3 -1 Le29 -2 Em3 -4 Em1 -32 Le29 -3 Le29 -35 Le8 -1 Le28 Em2 -25 Le54 -10 Le22 -10
    Le19 -13 Le18 -110 Le73 -55 Le51 -13 Le51 -13 Le36 Em4 -8 Nu10 -6 Nu10 Le28 -3 Em5 -1
    Le23 -250 Le42 -1 Em2 -3 Le2 -16 Le3 -55 Em4 Le29 -10 Le1 -8 Le22 Em11 -31 Le18 Em4 -42
    Le21 -27 Le23 -9 Em3 Le53 Em15 -31 Nu10 Em1 Le2 Em2 Le1 -9 Em4 Le45 Em11 -2 Nu1 -4 Em1
    -10 Nu1 -2 Le25 -7 Nu10 -6 Em3 Le36 Em14 -1 Nu10 -4 Le1 Em2 Le1 -8 Le35 Em1 -2 Le1 -9
    Em3 Le48 Em14 Le4 -4 Em4 -1 Em2 Nu10 Le1 -1 Le1 -35 Le18 -1 Le25 Em12 -6 Em1 Le2 Em1 -62
    Le7 -1 Le1 -1 Le4 -1 Le15 -1 Le10 -7 Le47 Em12 -5 Nu10 -6 Em4 -1 Le8 -2 Le2 -2 Le22 -1
    Le7 -1 Le2 -1 Le5 -1 Em2 Le1 Em7 -2 Em2 -2 Em3 -2 Le1 -6 Em1 -5 Le5 Em2 -2 Em7 -3 Em5
    -11 Le10 -1 Le1 -2 Le1 -1 Le38 -1 Le1 Em9 -1 Em1 -2 Em1 -1 Em4 -1 Em5 Le1 Em1 Le1 -13
    Em2 -29 Le53 Em18 Le4 -5 Nu10 -4 Em1 Le3 -30 Le48 Em20 Le2 -1 Le1 -8 Nu10 -166 Le47 Em7
    -2 Em9 -23 Le4 Em2 -34 Le48 Em17 -3 Le1 -11 Nu10 -38 Le43 Em13 Le1 -7 Nu10 -6 Nu20 -57
    Em15 -4 Nu10 -198 Le44 Em15 -101 Le64 Nu10 -21 Le8 -2 Le1 -2 Le8 -1 Le2 -1 Le24 Em6 -1
    Em2 -2 Em4 Le1 Em1 Le1 Em2 -12 Nu10 -70 Le8 -2 Le39 Em7 -2 Em7 Le1 -1 Le1 Em1 -27 Le1
    Em10 Le40 Em7 Le1 Em4 -8 Em1 -8 Le1 Em11 Le46 Em16 -3 Le1 -18 Le73 -199 Le33 -15 Nu10 -6
    Le9 -1 Le37 Em8 -1 Em8 Le1 -15 Nu10 -24 Le30 -2 Em22 -1 Em14 -73 Le7 -1 Le2 -1 Le38 Em6
    -3 Em1 -1 Em2 -1 Em7 Le1 Em1 -8 Nu10 -6 Le6 -1 Le2 -1 Le32 Em5 -1 Em2 -1 Em5 Le1 -7 Nu10
    -310 Le19 Em4 -9 Em2 Le1 Em1 Le13 -1 Le34 Em7 -3 Em5 -13 Nu10 Em1 -85 Le1 -79 Le922 -102
    Le111 -17 Le196 -2636 Le97 -15 Le1072 Fo16 Em1 Le6 Em15 -10 Le3995 -5 Le583 -6841 Le30
    Em18 Nu10 -1734 Le569 -7 Le31 -1 Nu10 -6 Le79 -1 Nu10 -6 Le30 -2 Em5 -11 Le48 Em7 -9 Le4
    -12 Nu10 -9 Le21 -5 Le19 -432 Le45 -3 Nu10 -198 Le64 -128 Le75 -4 Em1 Le1 Em55 -7 Em4
    Le13 -64 Le2 -1 Le1 Em1 -11 Em2 -16382 Ka4 -1 Ka7 -1 Ka2 -1 Ka1 -287 Ka3 -50 Ka1 -14 Ka4
    -2712 Le107 -5 Le13 -3 Le9 -7 Le10 -3 Em2 -1 Fo4 -4172 Nu10 -518 Em46 -2 Em23 -542 Em5
    -3 Em6 Fo8 Em8 -2 Em7 -30 Em4 -148 Em3 -443 Le85 -1 Le71 -1 Le2 -2 Le1 -2 Le2 -2 Le4 -1
    Le12 -1 Le1 -1 Le7 -1 Le65 -1 Le4 -2 Le8 -1 Le7 -1 Le28 -1 Le4 -1 Le5 -1 Le1 -3 Le7 -1
    Le340 -2 Le25 -1 Le25 -1 Le31 -1 Le25 -1 Le31 -1 Le25 -1 Le31 -1 Le25 -1 Le31 -1 Le25 -1
    Le8 -2 Nu50 -512 Em55 -4 Em50 -8 Em1 -14 Em1 -22 Em5 -1 Em15 -1104 Le31 -6 Le6 -213 Em7
    -1 Em17 -2 Em7 -1 Em2 -1 Em5 -5 Le62 -33 Em1 -112 Le45 -3 Em7 Le7 -2 Nu10 -4 Le1 -321
    Le30 Em1 -17 Le44 Em4 Nu10 -470 Le28 Em4 Nu10 -214 Le30 Em2 Le1 Nu10 -485 Le7 -1 Le4 -1
    Le2 -1 Le15 -1 Le197 -11 Em7 -41 Le68 Em7 Le1 -4 Nu10 -1190 Le4 -1 Le27 -1 Le2 -1 Le1 -2
    Le1 -1 Le10 -1 Le4 -1 Le1 -1 Le1 -6 Le1 -4 Le1 -1 Le1 -1 Le1 -1 Le3 -1 Le2 -1 Le1 -2 Le1
    -1 Le1 -1 Le1 -1 Le1 -1 Le1 -1 Le2 -1 Le1 -2 Le4 -1 Le7 -1 Le4 -1 Le4 -1 Le1 -1 Le10 -1
    Le17 -5 Le3 -1 Le5 -1 Le17 -628 Le26 -6 Le26 -6 Le26 -92 Ri26 -507 Em5 -2032 Nu10
    -787463 Fo1 -30 Em96 -128 Em240 -196112"

/-- The roles in a word. -/
def wordRoles : List Role :=
  [ ⟨"Cr", ["cr"]⟩, ⟨"Dq", ["dq", "doublequote"]⟩, ⟨"Ex", ["ex", "extendnumlet"]⟩,
    ⟨"Em", ["extend"]⟩, ⟨"Fo", ["fo", "format"]⟩, ⟨"Hl", ["hl", "hebrewletter"]⟩,
    ⟨"Ka", ["ka", "katakana"]⟩, ⟨"Le", ["le", "aletter"]⟩, ⟨"Lf", ["lf"]⟩,
    ⟨"Mb", ["mb", "midnumlet"]⟩, ⟨"Ml", ["ml", "midletter"]⟩, ⟨"Mn", ["mn", "midnum"]⟩,
    ⟨"Nl", ["nl", "newline"]⟩, ⟨"Nu", ["nu", "numeric"]⟩, ⟨"Ri", ["ri", "regionalindicator"]⟩,
    ⟨"Sq", ["sq", "singlequote"]⟩, ⟨"Ws", ["wsegspace"]⟩, ⟨"Zwj", ["zwj"]⟩ ]

/-- The characters with a role in a word. -/
def word? (name : String) : Option CharSet := withRole? wordTable wordRoles name

/-! ## Sentences -/

/-- The roles in a sentence, in code order, as run lengths. -/
def sentenceTable : String :=
  "-9 Sp1 Lf1 Sp2 Cr1 -18 Sp1 St1 Cl1 -4 Cl3 -2 Sc2 At1 -1 Nu10 Sc2 -3 St1 -1 Up26 Cl1 -1
    Cl1 -3 Lo26 Cl1 -1 Cl1 -7 Se1 -26 Sp1 -9 Lo1 Cl1 -1 Fo1 -7 Lo1 -4 Lo1 Cl1 -4 Up23 -1 Up7
    Lo24 -1 Lo8 Up1 Lo1 Up1 Lo1 Up1 Lo1 Up1 Lo1 Up1 Lo1 Up1 Lo1 Up1 Lo1 Up1 Lo1 Up1 Lo1 Up1
    Lo1 Up1 Lo1 Up1 Lo1 Up1 Lo1 Up1 Lo1 Up1 Lo1 Up1 Lo1 Up1 Lo1 Up1 Lo1 Up1 Lo1 Up1 Lo1 Up1
    Lo1 Up1 Lo1 Up1 Lo1 Up1 Lo1 Up1 Lo1 Up1 Lo1 Up1 Lo1 Up1 Lo2 Up1 Lo1 Up1 Lo1 Up1 Lo1 Up1
    Lo1 Up1 Lo1 Up1 Lo1 Up1 Lo1 Up1 Lo2 Up1 Lo1 Up1 Lo1 Up1 Lo1 Up1 Lo1 Up1 Lo1 Up1 Lo1 Up1
    Lo1 Up1 Lo1 Up1 Lo1 Up1 Lo1 Up1 Lo1 Up1 Lo1 Up1 Lo1 Up1 Lo1 Up1 Lo1 Up1 Lo1 Up1 Lo1 Up1
    Lo1 Up1 Lo1 Up1 Lo1 Up1 Lo1 Up1 Lo1 Up1 Lo1 Up2 Lo1 Up1 Lo1 Up1 Lo3 Up2 Lo1 Up1 Lo1 Up2
    Lo1 Up3 Lo2 Up4 Lo1 Up2 Lo1 Up3 Lo3 Up2 Lo1 Up2 Lo1 Up1 Lo1 Up1 Lo1 Up2 Lo1 Up1 Lo2 Up1
    Lo1 Up2 Lo1 Up3 Lo1 Up1 Lo1 Up2 Lo2 Le1 Up1 Lo3 Le4 Up2 Lo1 Up2 Lo1 Up2 Lo1 Up1 Lo1 Up1
    Lo1 Up1 Lo1 Up1 Lo1 Up1 Lo1 Up1 Lo1 Up1 Lo1 Up1 Lo2 Up1 Lo1 Up1 Lo1 Up1 Lo1 Up1 Lo1 Up1
    Lo1 Up1 Lo1 Up1 Lo1 Up1 Lo1 Up1 Lo2 Up2 Lo1 Up1 Lo1 Up3 Lo1 Up1 Lo1 Up1 Lo1 Up1 Lo1 Up1
    Lo1 Up1 Lo1 Up1 Lo1 Up1 Lo1 Up1 Lo1 Up1 Lo1 Up1 Lo1 Up1 Lo1 Up1 Lo1 Up1 Lo1 Up1 Lo1 Up1
    Lo1 Up1 Lo1 Up1 Lo1 Up1 Lo1 Up1 Lo1 Up1 Lo1 Up1 Lo1 Up1 Lo1 Up1 Lo1 Up1 Lo1 Up1 Lo1 Up1
    Lo1 Up1 Lo1 Up1 Lo1 Up1 Lo7 Up2 Lo1 Up2 Lo2 Up1 Lo1 Up4 Lo1 Up1 Lo1 Up1 Lo1 Up1 Lo1 Up1
    Lo69 Le1 Lo36 Le7 Lo2 -4 Le12 -14 Lo5 -7 Le1 -1 Le1 -17 Ex112 Up1 Lo1 Up1 Lo1 Le1 -1 Up1
    Lo1 -2 Lo4 Sc1 Up1 -6 Up1 -1 Up3 -1 Up1 -1 Up2 Lo1 Up17 -1 Up9 Lo35 Up1 Lo2 Up3 Lo3 Up1
    Lo1 Up1 Lo1 Up1 Lo1 Up1 Lo1 Up1 Lo1 Up1 Lo1 Up1 Lo1 Up1 Lo1 Up1 Lo1 Up1 Lo1 Up1 Lo1 Up1
    Lo5 Up1 Lo1 -1 Up1 Lo1 Up2 Lo2 Up51 Lo48 Up1 Lo1 Up1 Lo1 Up1 Lo1 Up1 Lo1 Up1 Lo1 Up1 Lo1
    Up1 Lo1 Up1 Lo1 Up1 Lo1 Up1 Lo1 Up1 Lo1 Up1 Lo1 Up1 Lo1 Up1 Lo1 Up1 Lo1 Up1 Lo1 Up1 Lo1
    -1 Ex7 Up1 Lo1 Up1 Lo1 Up1 Lo1 Up1 Lo1 Up1 Lo1 Up1 Lo1 Up1 Lo1 Up1 Lo1 Up1 Lo1 Up1 Lo1
    Up1 Lo1 Up1 Lo1 Up1 Lo1 Up1 Lo1 Up1 Lo1 Up1 Lo1 Up1 Lo1 Up1 Lo1 Up1 Lo1 Up1 Lo1 Up1 Lo1
    Up1 Lo1 Up1 Lo1 Up1 Lo1 Up1 Lo1 Up1 Lo1 Up1 Lo1 Up2 Lo1 Up1 Lo1 Up1 Lo1 Up1 Lo1 Up1 Lo1
    Up1 Lo1 Up1 Lo2 Up1 Lo1 Up1 Lo1 Up1 Lo1 Up1 Lo1 Up1 Lo1 Up1 Lo1 Up1 Lo1 Up1 Lo1 Up1 Lo1
    Up1 Lo1 Up1 Lo1 Up1 Lo1 Up1 Lo1 Up1 Lo1 Up1 Lo1 Up1 Lo1 Up1 Lo1 Up1 Lo1 Up1 Lo1 Up1 Lo1
    Up1 Lo1 Up1 Lo1 Up1 Lo1 Up1 Lo1 Up1 Lo1 Up1 Lo1 Up1 Lo1 Up1 Lo1 Up1 Lo1 Up1 Lo1 Up1 Lo1
    Up1 Lo1 Up1 Lo1 Up1 Lo1 Up1 Lo1 Up1 Lo1 Up1 Lo1 Up1 Lo1 Up1 Lo1 Up1 Lo1 Up1 Lo1 Up1 Lo1
    Up1 Lo1 Up1 Lo1 Up1 Lo1 Up1 Lo1 Up1 Lo1 Up1 Lo1 -1 Up38 -2 Le1 -3 Sc1 -2 Lo41 St1 -7
    Ex45 -1 Ex1 -1 Ex2 -1 Ex2 -1 Ex1 -8 Le27 -4 Le5 -12 Nu6 -6 Sc2 -2 Ex11 -1 Fo1 St3 Le43
    Ex21 Nu10 -1 Nu2 -1 Le2 Ex1 Le99 St1 Le1 Ex7 Nu1 -1 Ex6 Le2 Ex2 -1 Ex4 Le2 Nu10 Le3 -2
    Le1 St3 -12 Fo1 Le1 Ex1 Le30 Ex27 -2 Le89 Ex11 Le1 -14 Nu10 Le33 Ex9 Le2 -2 Sc1 St1 Le1
    -2 Ex1 -2 Le22 Ex4 Le1 Ex9 Le1 Ex3 Le1 Ex5 -9 St1 -1 St1 -3 St2 -1 Le25 Ex3 -4 Le11 -5
    Le24 -1 Le6 -1 Nu2 -5 Ex9 Le42 Ex24 Nu1 Ex33 Le54 Ex3 Le1 Ex18 Le1 Ex7 Le10 Ex2 St2 Nu10
    -1 Le16 Ex3 -1 Le8 -2 Le2 -2 Le22 -1 Le7 -1 Le1 -3 Le4 -2 Ex1 Le1 Ex7 -2 Ex2 -2 Ex3 Le1
    -8 Ex1 -4 Le2 -1 Le3 Ex2 -2 Nu10 Le2 -10 Le1 -1 Ex1 -2 Ex3 -1 Le6 -4 Le2 -2 Le22 -1 Le7
    -1 Le2 -1 Le2 -1 Le2 -2 Ex1 -1 Ex5 -4 Ex2 -2 Ex3 -3 Ex1 -7 Le4 -1 Le1 -7 Nu10 Ex2 Le3
    Ex1 -11 Ex3 -1 Le9 -1 Le3 -1 Le22 -1 Le7 -1 Le2 -1 Le5 -2 Ex1 Le1 Ex8 -1 Ex3 -1 Ex3 -2
    Le1 -15 Le2 Ex2 -2 Nu10 -9 Le1 Ex6 -1 Ex3 -1 Le8 -2 Le2 -2 Le22 -1 Le7 -1 Le2 -1 Le5 -2
    Ex1 Le1 Ex7 -2 Ex2 -2 Ex3 -7 Ex3 -4 Le2 -1 Le3 Ex2 -2 Nu10 -1 Le1 -16 Ex1 Le1 -1 Le6 -3
    Le3 -1 Le4 -3 Le2 -1 Le1 -1 Le2 -3 Le2 -3 Le3 -3 Le12 -4 Ex5 -3 Ex3 -1 Ex4 -2 Le1 -6 Ex1
    -14 Nu10 -16 Ex5 Le8 -1 Le3 -1 Le23 -1 Le16 -2 Ex1 Le1 Ex7 -1 Ex3 -1 Ex4 -7 Ex2 -1 Le3
    -2 Le1 -2 Le2 Ex2 -2 Nu10 -16 Le1 Ex3 -1 Le8 -1 Le3 -1 Le23 -1 Le10 -1 Le5 -2 Ex1 Le1
    Ex7 -1 Ex3 -1 Ex4 -7 Ex2 -6 Le2 -1 Le2 Ex2 -2 Nu10 -1 Le2 Ex1 -12 Ex4 Le9 -1 Le3 -1 Le41
    Ex2 Le1 Ex7 -1 Ex3 -1 Ex4 Le1 -5 Le3 Ex1 -7 Le3 Ex2 -2 Nu10 -10 Le6 -1 Ex3 -1 Le18 -3
    Le24 -1 Le9 -1 Le1 -2 Le7 -3 Ex1 -4 Ex6 -1 Ex1 -1 Ex8 -6 Nu10 -2 Ex2 -13 Le48 Ex1 Le2
    Ex7 -5 Le7 Ex8 -1 Nu10 -39 Le2 -1 Le1 -1 Le5 -1 Le24 -1 Le1 -1 Le10 Ex1 Le2 Ex9 Le1 -2
    Le5 -1 Le1 -1 Ex7 -1 Nu10 -2 Le4 -32 Le1 -23 Ex2 -6 Nu10 -11 Ex1 -1 Ex1 -1 Ex1 Cl4 Ex2
    Le8 -1 Le36 -4 Ex20 -1 Ex2 Le5 Ex11 -1 Ex36 -9 Ex1 -57 Le43 Ex20 Le1 Nu10 St2 -4 Le6 Ex4
    Le4 Ex3 Le1 Ex3 Le2 Ex7 Le3 Ex4 Le13 Ex12 Le1 Ex1 Nu10 Ex4 -2 Up38 -1 Up1 -5 Up1 -2 Le43
    -1 Lo1 Le332 -1 Le4 -2 Le7 -1 Le1 -1 Le4 -2 Le41 -1 Le4 -2 Le33 -1 Le4 -2 Le7 -1 Le1 -1
    Le4 -2 Le15 -1 Le57 -1 Le4 -2 Le67 -2 Ex3 -2 St1 -4 St2 -23 Le16 -16 Up86 -2 Lo6 -3
    Le620 -1 St1 Le17 Sp1 Le26 Cl2 -3 Le75 -3 Le11 -7 Le18 Ex4 -9 Le19 Ex3 St2 -9 Le18 Ex2
    -12 Le13 -1 Le3 -1 Ex2 -12 Le52 Ex32 St2 -1 Le1 -4 Le1 Ex1 -2 Nu10 -24 Sc1 St1 -4 Sc1
    St1 -1 Ex3 Fo1 Ex1 Nu10 -6 Le89 -7 Le5 Ex2 Le34 Ex1 Le1 -5 Le70 -10 Le31 -1 Ex12 -4 Ex12
    -8 St2 Nu10 Le30 -2 Le5 -11 Le44 -4 Le26 -6 Nu10 -38 Le23 Ex5 -4 Le53 Ex10 -1 Ex29 -2
    Ex1 Nu10 -6 Nu10 -13 Le1 St4 -4 Ex31 -49 Ex5 Le47 Ex17 Le8 -1 St2 Nu10 St2 -2 St2 -11
    Ex9 -9 St3 Ex3 Le30 Ex13 Le2 Nu10 Le44 Ex14 -12 Le36 Ex20 -3 St2 -3 Nu10 -3 Le3 Nu10
    Le36 St2 Lo9 Up1 Lo1 -5 Le43 -2 Le3 -16 Ex3 -1 Ex21 Le4 Ex1 Le6 Ex1 Le2 Ex3 Le1 -5 Lo192
    Ex64 Up1 Lo1 Up1 Lo1 Up1 Lo1 Up1 Lo1 Up1 Lo1 Up1 Lo1 Up1 Lo1 Up1 Lo1 Up1 Lo1 Up1 Lo1 Up1
    Lo1 Up1 Lo1 Up1 Lo1 Up1 Lo1 Up1 Lo1 Up1 Lo1 Up1 Lo1 Up1 Lo1 Up1 Lo1 Up1 Lo1 Up1 Lo1 Up1
    Lo1 Up1 Lo1 Up1 Lo1 Up1 Lo1 Up1 Lo1 Up1 Lo1 Up1 Lo1 Up1 Lo1 Up1 Lo1 Up1 Lo1 Up1 Lo1 Up1
    Lo1 Up1 Lo1 Up1 Lo1 Up1 Lo1 Up1 Lo1 Up1 Lo1 Up1 Lo1 Up1 Lo1 Up1 Lo1 Up1 Lo1 Up1 Lo1 Up1
    Lo1 Up1 Lo1 Up1 Lo1 Up1 Lo1 Up1 Lo1 Up1 Lo1 Up1 Lo1 Up1 Lo1 Up1 Lo1 Up1 Lo1 Up1 Lo1 Up1
    Lo1 Up1 Lo1 Up1 Lo1 Up1 Lo1 Up1 Lo1 Up1 Lo1 Up1 Lo1 Up1 Lo1 Up1 Lo1 Up1 Lo1 Up1 Lo1 Up1
    Lo1 Up1 Lo1 Up1 Lo1 Up1 Lo1 Up1 Lo1 Up1 Lo1 Up1 Lo1 Up1 Lo1 Up1 Lo1 Up1 Lo9 Up1 Lo1 Up1
    Lo1 Up1 Lo1 Up1 Lo1 Up1 Lo1 Up1 Lo1 Up1 Lo1 Up1 Lo1 Up1 Lo1 Up1 Lo1 Up1 Lo1 Up1 Lo1 Up1
    Lo1 Up1 Lo1 Up1 Lo1 Up1 Lo1 Up1 Lo1 Up1 Lo1 Up1 Lo1 Up1 Lo1 Up1 Lo1 Up1 Lo1 Up1 Lo1 Up1
    Lo1 Up1 Lo1 Up1 Lo1 Up1 Lo1 Up1 Lo1 Up1 Lo1 Up1 Lo1 Up1 Lo1 Up1 Lo1 Up1 Lo1 Up1 Lo1 Up1
    Lo1 Up1 Lo1 Up1 Lo1 Up1 Lo1 Up1 Lo1 Up1 Lo1 Up1 Lo1 Up1 Lo1 Up1 Lo1 Up1 Lo1 Up1 Lo1 Up1
    Lo1 Up1 Lo1 Up1 Lo1 Up1 Lo9 Up8 Lo6 -2 Up6 -2 Lo8 Up8 Lo8 Up8 Lo6 -2 Up6 -2 Lo8 -1 Up1
    -1 Up1 -1 Up1 -1 Up1 Lo8 Up8 Lo14 -2 Lo8 Up8 Lo8 Up8 Lo8 Up8 Lo5 -1 Lo2 Up5 -1 Lo1 -3
    Lo3 -1 Lo2 Up5 -3 Lo4 -2 Lo2 Up4 -4 Lo8 Up5 -5 Lo3 -1 Lo2 Up5 -3 Sp11 Fo1 Ex2 Fo2 -3 Sc2
    -3 Cl8 -4 At1 -3 Se2 Fo5 Sp1 -9 Cl2 -1 St2 -7 Cl2 St3 -21 Sp1 Fo5 -1 Fo10 -1 Lo1 -11 Cl2
    Lo1 -13 Cl2 -1 Lo13 -51 Ex33 -17 Up1 -4 Up1 -2 Lo1 Up3 Lo2 Up3 Lo1 -1 Up1 -3 Up5 -6 Up1
    -1 Up1 -1 Up1 -1 Up4 -1 Lo1 Up4 Lo1 Le4 Lo1 -2 Lo2 Up2 -5 Up1 Lo4 -4 Lo1 -17 Up16 Lo16
    Le3 Up1 Lo1 Le4 -383 Cl4 -29 Cl2 -395 Up26 Lo26 -625 Cl6 -7 Cl14 -79 Cl2 -31 Cl10 -403
    Cl22 -63 Cl4 -32 Cl2 -514 Up48 Lo48 Up1 Lo1 Up3 Lo2 Up1 Lo1 Up1 Lo1 Up1 Lo1 Up4 Lo1 Up1
    Lo2 Up1 Lo8 Up3 Lo1 Up1 Lo1 Up1 Lo1 Up1 Lo1 Up1 Lo1 Up1 Lo1 Up1 Lo1 Up1 Lo1 Up1 Lo1 Up1
    Lo1 Up1 Lo1 Up1 Lo1 Up1 Lo1 Up1 Lo1 Up1 Lo1 Up1 Lo1 Up1 Lo1 Up1 Lo1 Up1 Lo1 Up1 Lo1 Up1
    Lo1 Up1 Lo1 Up1 Lo1 Up1 Lo1 Up1 Lo1 Up1 Lo1 Up1 Lo1 Up1 Lo1 Up1 Lo1 Up1 Lo1 Up1 Lo1 Up1
    Lo1 Up1 Lo1 Up1 Lo1 Up1 Lo1 Up1 Lo1 Up1 Lo1 Up1 Lo1 Up1 Lo1 Up1 Lo1 Up1 Lo1 Up1 Lo1 Up1
    Lo1 Up1 Lo1 Up1 Lo1 Up1 Lo1 Up1 Lo1 Up1 Lo1 Up1 Lo1 Up1 Lo2 -6 Up1 Lo1 Up1 Lo1 Ex3 Up1
    Lo1 -5 St3 -4 Lo38 -1 Lo1 -5 Lo1 -2 Le56 -7 Le1 -15 Ex1 Le23 -9 Le7 -1 Le7 -1 Le7 -1 Le7
    -1 Le7 -1 Le7 -1 Le7 -1 Le7 -1 Ex32 Cl14 -14 Cl2 -2 Cl10 -4 St1 Le1 -12 St1 -5 Cl1 -16
    St2 Cl8 -419 Sp1 Sc1 St1 -2 Le3 Cl10 -2 Cl8 -1 Cl3 -1 Le9 Ex6 -1 Le5 -2 Le5 -4 Le86 -2
    Ex2 -2 Le3 -1 Le90 -1 Le4 -5 Le43 -1 Le94 -17 Le32 -48 Le16 -512 Le6592 -64 Le22157 -67
    Le46 -1 St1 Le269 -1 St2 Le16 Nu10 Le2 -20 Up1 Lo1 Up1 Lo1 Up1 Lo1 Up1 Lo1 Up1 Lo1 Up1
    Lo1 Up1 Lo1 Up1 Lo1 Up1 Lo1 Up1 Lo1 Up1 Lo1 Up1 Lo1 Up1 Lo1 Up1 Lo1 Up1 Lo1 Up1 Lo1 Up1
    Lo1 Up1 Lo1 Up1 Lo1 Up1 Lo1 Up1 Lo1 Up1 Lo1 Up1 Lo1 Le1 Ex4 -1 Ex10 -1 Le1 Up1 Lo1 Up1
    Lo1 Up1 Lo1 Up1 Lo1 Up1 Lo1 Up1 Lo1 Up1 Lo1 Up1 Lo1 Up1 Lo1 Up1 Lo1 Up1 Lo1 Up1 Lo1 Up1
    Lo1 Up1 Lo3 Ex2 Le80 Ex2 -1 St1 -3 St1 -31 Le9 -2 Up1 Lo1 Up1 Lo1 Up1 Lo1 Up1 Lo1 Up1
    Lo1 Up1 Lo1 Up1 Lo3 Up1 Lo1 Up1 Lo1 Up1 Lo1 Up1 Lo1 Up1 Lo1 Up1 Lo1 Up1 Lo1 Up1 Lo1 Up1
    Lo1 Up1 Lo1 Up1 Lo1 Up1 Lo1 Up1 Lo1 Up1 Lo1 Up1 Lo1 Up1 Lo1 Up1 Lo1 Up1 Lo1 Up1 Lo1 Up1
    Lo1 Up1 Lo1 Up1 Lo1 Up1 Lo1 Up1 Lo1 Up1 Lo1 Up1 Lo1 Up1 Lo1 Up1 Lo1 Up1 Lo1 Up1 Lo1 Up1
    Lo10 Up1 Lo1 Up1 Lo1 Up2 Lo1 Up1 Lo1 Up1 Lo1 Up1 Lo1 Up1 Lo1 Le1 -2 Up1 Lo1 Up1 Lo1 Le1
    Up1 Lo1 Up1 Lo3 Up1 Lo1 Up1 Lo1 Up1 Lo1 Up1 Lo1 Up1 Lo1 Up1 Lo1 Up1 Lo1 Up1 Lo1 Up1 Lo1
    Up1 Lo1 Up5 Lo1 Up5 Lo1 Up1 Lo1 Up1 Lo1 Up1 Lo1 Up1 Lo1 Up1 Lo1 Up1 Lo1 Up1 Lo1 Up4 Lo1
    Up1 Lo1 Up2 Lo1 -2 Up1 Lo1 -1 Lo1 -1 Lo1 Up1 Lo1 Up1 Lo1 Up1 Lo1 Up1 -21 Lo3 Up1 Lo1 Le1
    Lo3 Le7 Ex1 Le3 Ex1 Le4 Ex1 Le23 Ex5 -4 Ex1 -19 Le52 -2 St2 -8 Ex2 Le50 Ex18 -8 St2 Nu10
    -6 Ex18 Le6 -3 Le1 -1 Le2 Ex1 Nu10 Le28 Ex8 -1 St1 Le23 Ex13 -12 Le29 -3 Ex4 Le47 Ex14
    -7 St2 -5 Le1 Nu10 -6 Le5 Ex1 Le10 Nu10 Le5 -1 Le41 Ex14 -9 Le3 Ex1 Le8 Ex2 -2 Nu10 -3
    St3 Le23 -3 Le1 Ex3 Le50 Ex1 Le1 Ex3 Le2 Ex2 Le5 Ex2 Le1 Ex1 Le1 -24 Le3 -2 Le11 Ex5 St2
    Le3 Ex2 -10 Le6 -2 Le6 -2 Le6 -9 Le7 -1 Le7 -1 Lo43 -1 Lo14 -6 Lo80 Le35 Ex8 St1 Ex2 -2
    Nu10 -6 Le11172 -12 Le23 -4 Le49 -8452 Le366 -2 Le106 -38 Lo7 -12 Lo5 -5 Le1 Ex1 Le10 -1
    Le13 -1 Le5 -1 Le1 -1 Le2 -1 Le2 -1 Le108 -33 Le363 Cl2 -16 Le64 -2 Le54 -40 Le12 -4
    Ex16 Sc2 St1 Sc2 St2 Cl2 -7 Ex16 -1 Sc2 -2 Cl16 -2 Cl2 -7 Sc2 At1 -1 Sc2 St2 Sc1 Cl6 -4
    Sc1 -12 Le5 -1 Le135 -2 Fo1 -1 St1 -6 Cl2 -2 Sc2 At1 -1 Nu10 Sc2 -3 St1 -1 Up26 Cl1 -1
    Cl1 -3 Lo26 Cl1 -1 Cl1 -1 Cl2 St1 Cl2 Sc1 -1 Le56 Ex2 Le31 -3 Le6 -2 Le6 -2 Le6 -2 Le3
    -28 Fo3 -4 Le12 -1 Le26 -1 Le19 -1 Le2 -1 Le15 -2 Le14 -34 Le123 -69 Le53 -136 Ex1 -130
    Le29 -3 Le49 -15 Ex1 -31 Le32 -13 Le30 -5 Le38 Ex5 -5 Le30 -2 Le36 -4 Le8 -1 Le5 -42
    Up40 Lo40 Le78 -2 Nu10 -6 Up36 -4 Lo36 -4 Le40 -8 Le52 -12 Up11 -1 Up15 -1 Up7 -1 Up2 -1
    Lo11 -1 Lo15 -1 Lo7 -1 Lo2 -3 Le52 -12 Le311 -9 Le22 -10 Le8 -24 Lo1 Le2 Lo3 -1 Lo42 -1
    Lo9 -69 Le6 -2 Le1 -1 Le44 -1 Le2 -3 Le1 -2 Le23 -10 Le23 -9 Le31 -65 Le19 -1 Le2 -10
    Le22 -10 Le26 -70 Le56 -6 Le2 -64 Le1 Ex3 -1 Ex2 -5 Ex4 Le4 -1 Le3 -1 Le29 -2 Ex3 -4 Ex1
    -22 St2 -8 Le29 -3 Le29 -35 Le8 -1 Le28 Ex2 -25 Le54 -10 Le22 -10 Le19 -13 Le18 -110
    Le73 -55 Up51 -13 Lo51 -13 Le36 Ex4 -8 Nu10 -6 Nu10 Le6 Up22 -3 Ex5 -1 Le1 Lo22 -250
    Le42 -1 Ex2 -3 Le2 -16 Le3 -55 Ex4 Le29 -10 Le1 -8 Le22 Ex11 -4 St5 -22 Le18 Ex4 St4 -38
    Le21 -27 Le23 -9 Ex3 Le53 Ex15 St2 -29 Nu10 Ex1 Le2 Ex2 Le1 -9 Ex4 Le45 Ex11 -2 Nu1 St4
    Ex1 -10 Nu1 -2 Le25 -7 Nu10 -6 Ex3 Le36 Ex14 -1 Nu10 -1 St3 Le1 Ex2 Le1 -8 Le35 Ex1 -2
    Le1 -9 Ex3 Le48 Ex14 Le4 St2 -2 Ex4 St1 Ex2 Nu10 Le1 -1 Le1 -1 St2 -32 Le18 -1 Le25 Ex12
    St2 -1 St2 -1 Ex1 Le2 Ex1 -62 Le7 -1 Le1 -1 Le4 -1 Le15 -1 Le10 St1 -6 Le47 Ex12 -5 Nu10
    -6 Ex4 -1 Le8 -2 Le2 -2 Le22 -1 Le7 -1 Le2 -1 Le5 -1 Ex2 Le1 Ex7 -2 Ex2 -2 Ex3 -2 Le1 -6
    Ex1 -5 Le5 Ex2 -2 Ex7 -3 Ex5 -11 Le10 -1 Le1 -2 Le1 -1 Le38 -1 Le1 Ex9 -1 Ex1 -2 Ex1 -1
    Ex4 -1 Ex5 Le1 Ex1 Le1 St2 -11 Ex2 -29 Le53 Ex18 Le4 St2 -3 Nu10 -4 Ex1 Le3 -30 Le48
    Ex20 Le2 -1 Le1 -8 Nu10 -166 Le47 Ex7 -2 Ex9 -1 St2 -5 St15 Le4 Ex2 -34 Le48 Ex17 St2 -1
    Le1 -11 Nu10 -38 Le43 Ex13 Le1 -7 Nu10 -6 Nu20 -28 Le27 -2 Ex15 -4 Nu10 -2 St3 -1 Le7
    -185 Le44 Ex15 -101 Up32 Lo32 Nu10 -21 Le8 -2 Le1 -2 Le8 -1 Le2 -1 Le24 Ex6 -1 Ex2 -2
    Ex4 Le1 Ex1 Le1 Ex2 St1 -1 St1 -9 Nu10 -70 Le8 -2 Le39 Ex7 -2 Ex7 Le1 -1 Le1 Ex1 -27 Le1
    Ex10 Le40 Ex7 Le1 Ex4 -3 St2 -3 Ex1 -8 Le1 Ex11 Le46 Ex16 -1 St2 Le1 -18 Le73 -199 Le33
    -15 Nu10 -6 Le9 -1 Le37 Ex8 -1 Ex8 Le1 St2 -13 Nu10 -24 Le30 -2 Ex22 -1 Ex14 -73 Le7 -1
    Le2 -1 Le38 Ex6 -3 Ex1 -1 Ex2 -1 Ex7 Le1 Ex1 -8 Nu10 -6 Le6 -1 Le2 -1 Le32 Ex5 -1 Ex2 -1
    Ex5 Le1 -7 Nu10 -310 Le19 Ex4 St2 -7 Ex2 Le1 Ex1 Le13 -1 Le34 Ex7 -3 Ex5 St2 -11 Nu10
    Ex1 -85 Le1 -79 Le922 -102 Le111 -17 Le196 -2636 Le97 -15 Le1072 Fo16 Ex1 Le6 Ex15 -10
    Le3995 -5 Le583 -6841 Le30 Ex18 Nu10 -1734 Le569 -7 Le31 -1 Nu10 -4 St2 Le79 -1 Nu10 -6
    Le30 -2 Ex5 St1 -10 Le48 Ex7 St2 -7 Le4 St1 -11 Nu10 -9 Le21 -5 Le19 -432 Le45 -1 St2
    Nu10 -198 Up32 Lo32 -24 St1 -103 Le75 -4 Ex1 Le1 Ex55 -7 Ex4 Le13 -64 Le2 -1 Le1 Ex1 -11
    Ex2 -14 Le6136 -8 Le1238 -41 Le10 -8935 Le4 -1 Le7 -1 Le2 -1 Le291 -15 Le1 -29 Le3 -2
    Le1 -14 Le4 -8 Le396 -2308 Le107 -5 Le13 -3 Le9 -7 Le10 -3 Ex2 St1 Fo4 -4172 Nu10 -518
    Ex46 -2 Ex23 -542 Ex5 -3 Ex6 Fo8 Ex8 -2 Ex7 -30 Ex4 -148 Ex3 -443 Up26 Lo26 Up26 Lo7 -1
    Lo18 Up26 Lo26 Up1 -1 Up2 -2 Up1 -2 Up2 -2 Up4 -1 Up8 Lo4 -1 Lo1 -1 Lo7 -1 Lo11 Up26
    Lo26 Up2 -1 Up4 -2 Up8 -1 Up7 -1 Lo26 Up2 -1 Up4 -1 Up5 -1 Up1 -3 Up7 -1 Lo26 Up26 Lo26
    Up26 Lo26 Up26 Lo26 Up26 Lo26 Up26 Lo26 Up26 Lo28 -2 Up25 -1 Lo25 -1 Lo6 Up25 -1 Lo25 -1
    Lo6 Up25 -1 Lo25 -1 Lo6 Up25 -1 Lo25 -1 Lo6 Up25 -1 Lo25 -1 Lo6 Up1 Lo1 -2 Nu50 -512
    Ex55 -4 Ex50 -8 Ex1 -14 Ex1 -3 St1 -18 Ex5 -1 Ex15 -1104 Lo10 Le1 Lo20 -6 Lo6 -213 Ex7
    -1 Ex17 -2 Ex7 -1 Ex2 -1 Ex5 -5 Lo62 -33 Ex1 -112 Le45 -3 Ex7 Le7 -2 Nu10 -4 Le1 -321
    Le30 Ex1 -17 Le44 Ex4 Nu10 -470 Le28 Ex4 Nu10 -214 Le30 Ex2 Le1 Nu10 -485 Le7 -1 Le4 -1
    Le2 -1 Le15 -1 Le197 -11 Ex7 -41 Up34 Lo34 Ex7 Le1 -4 Nu10 -1190 Le4 -1 Le27 -1 Le2 -1
    Le1 -2 Le1 -1 Le10 -1 Le4 -1 Le1 -1 Le1 -6 Le1 -4 Le1 -1 Le1 -1 Le1 -1 Le3 -1 Le2 -1 Le1
    -2 Le1 -1 Le1 -1 Le1 -1 Le1 -1 Le1 -1 Le2 -1 Le1 -2 Le4 -1 Le7 -1 Le4 -1 Le4 -1 Le1 -1
    Le10 -1 Le17 -5 Le3 -1 Le5 -1 Le17 -628 Up26 -6 Up26 -6 Up26 -1260 Cl3 -1399 Nu10 -1030
    Le42720 -32 Le4154 -6 Le222 -2 Le5762 -14 Le7473 -15 Le622 -2466 Le542 -1506 Le4939 -5
    Le4192 -711761 Fo1 -30 Ex96 -128 Ex240 -196112"

/-- The roles in a sentence. -/
def sentenceRoles : List Role :=
  [ ⟨"At", ["at", "aterm"]⟩, ⟨"Cl", ["cl", "close"]⟩, ⟨"Cr", ["cr"]⟩, ⟨"Ex", ["ex", "extend"]⟩,
    ⟨"Fo", ["fo", "format"]⟩, ⟨"Le", ["le", "oletter"]⟩, ⟨"Lf", ["lf"]⟩, ⟨"Lo", ["lo", "lower"]⟩,
    ⟨"Nu", ["nu", "numeric"]⟩, ⟨"Sc", ["sc", "scontinue"]⟩, ⟨"Se", ["se", "sep"]⟩, ⟨"Sp", ["sp"]⟩,
    ⟨"St", ["st", "sterm"]⟩, ⟨"Up", ["up", "upper"]⟩ ]

/-- The characters with a role in a sentence. -/
def sentence? (name : String) : Option CharSet := withRole? sentenceTable sentenceRoles name

end StatefulLexer.Segmentation
