/-!
# Control characters

Two ways to keep a text from steering a terminal. `dropControls` leaves escape sequences and control characters out, but for
line ends and tabs; `showControls` spells out the characters with which such sequences begin and end.
-/

namespace RowLoader.Text

/-! ### leaving out -/

/-- Where in an escape sequence a place of a text is. -/
inductive Place where
  | outside
  /-- right behind the escape character -/
  | escape
  /-- behind further signs, up to the character that ends the sequence -/
  | signs
  /-- behind `[`, up to the letter that ends the sequence -/
  | parameters
  /-- behind `]`, up to the bell -/
  | command
  /-- behind `P`, where a string announces itself -/
  | heading
  /-- behind numbers of a heading -/
  | headingNumbers
  /-- behind signs of a heading -/
  | headingSigns
  /-- in a string, which does not end by itself -/
  | string
  /-- text in the middle of a sequence, which goes on behind it -/
  | aside (sequence : Place)
  deriving DecidableEq

/-- What a line end or a tab does to the sequence that it stands in. -/
inductive Interruption where
  | ends
  | suspends
  deriving DecidableEq

/-- The control characters that lay text out. -/
def isLayout (c : Char) : Bool := c == '\t' || c == '\n' || c == '\x0c' || c == '\r'

/-- Whether `0x9C`, which ends a string, is among the bytes of a character. -/
def endsString (c : Char) : Bool := (String.utf8EncodeChar c).contains 0x9C

namespace Place

/-- Whether text is shown here. -/
def shows : Place → Bool
  | outside | aside _ => true
  | _ => false

/-- Behind a printing character of ASCII. -/
def afterPrinting (p : Place) (c : Char) : Place :=
  match p with
  | escape =>
    if c < '0' then signs
    else if c = '[' then parameters
    else if c = ']' then command
    else if c = 'P' then heading
    else if c = 'X' ∨ c = '^' ∨ c = '_' then string
    else outside
  | signs => if c < '0' then signs else outside
  | parameters => if c < '@' then parameters else outside
  | heading => if c < '0' then headingSigns else if c < '@' then headingNumbers else string
  | headingNumbers => if c < '0' then headingSigns else if c < '<' then headingNumbers else string
  | headingSigns => if c < '0' then headingSigns else string
  | p => p

/-- Behind a character beyond ASCII, which no sequence has a meaning for. -/
def afterForeign (p : Place) (c : Char) : Place :=
  match p with
  | aside _ => outside
  | string => if endsString c then outside else string
  | p => p

/-- Behind a line end or a tab, and whether it is shown. -/
def afterLayout (i : Interruption) (p : Place) : Bool × Place :=
  match p with
  | outside | aside _ => (true, p)
  | escape | signs | parameters => (true, if i = .suspends then aside p else outside)
  | p => (false, p)

/-- Behind a control character of any other kind, the bell among them. -/
def afterControl (p : Place) (c : Char) : Place :=
  match p with
  | aside p => p
  | command => if c = '\x07' then outside else command
  | p => p

/-- Whether a character is shown, and the place behind it. -/
def step (i : Interruption) (p : Place) (c : Char) : Bool × Place :=
  if c = '\x1b' then (false, escape)
  else if c = '\x18' ∨ c = '\x1a' then (false, outside)
  else if 0x80 ≤ c.toNat then (p.shows, p.afterForeign c)
  else if isLayout c then p.afterLayout i
  else if c < ' ' ∨ c = '\x7f' then (false, p.afterControl c)
  else (p.shows, p.afterPrinting c)

end Place

def dropFrom (i : Interruption) : Place → List Char → List Char
  | _, [] => []
  | p, c :: r =>
    let (shown, next) := p.step i c
    if shown then c :: dropFrom i next r else dropFrom i next r

def dropControls (i : Interruption) (s : String) : String := String.ofList (dropFrom i .outside s.toList)

/-! ### spelling out -/

def showControl (c : Char) : String :=
  if c = '\x1b' then "\\x1b"
  else if c = '\x07' then "\\x07"
  else if c = '\x08' then "\\x08"
  else if c = '\x0c' then "\\x0c"
  else if c = '\x7f' then "\\x7f"
  else if 0x80 ≤ c.toNat ∧ c.toNat < 0xA0 then "\\u\x7b" ++ String.ofList (Nat.toDigits 16 c.toNat) ++ "\x7d"
  else String.singleton c

def showControls (s : String) : String := String.join (s.toList.map showControl)

end RowLoader.Text
