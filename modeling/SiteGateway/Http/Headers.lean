import SiteGateway.Text.Utf8

/-!
# Header fields

Fields in the order they were received, names in lower case, one value per field. Looking a name up
gives its first value; `values` gives all of them in order.
-/

namespace SiteGateway

/-- A character of a method or a field name. -/
def isTokenChar (c : Char) : Bool :=
  c.isAlphanum || "!#$%&\x27*+-.^_\x60|~".toList.contains c

def isToken (t : Text) : Bool := !t.isEmpty && t.all isTokenChar

abbrev HeaderName := Text

/-- The name that a token spells, in lower case. -/
def HeaderName.parse? (t : Text) : Option HeaderName :=
  if isToken t then some (Text.lower t) else none

abbrev HeaderValue := Bytes

namespace HeaderValue

/-- Whether the bytes may be sent as a value: no control character but tab. -/
def valid (v : HeaderValue) : Bool := v.all fun b => b == 9 || (0x20 ≤ b && b != 0x7F)

/-- The value as text, if all its bytes are visible ASCII, spaces or tabs. -/
def readable? (v : HeaderValue) : Option Text :=
  if v.all fun b => b == 9 || (0x20 ≤ b && b < 0x7F) then some (v.map fun b => Char.ofNat b.toNat)
  else none

end HeaderValue

abbrev Headers := List (HeaderName × HeaderValue)

namespace Headers

def values (hs : Headers) (name : HeaderName) : List HeaderValue :=
  hs.filterMap fun (n, v) => if n = name then some v else none

def get? (hs : Headers) (name : HeaderName) : Option HeaderValue := (hs.values name).head?

/-- The first value of a name if it is readable text. -/
def text? (hs : Headers) (name : HeaderName) : Option Text :=
  (hs.get? name).bind HeaderValue.readable?

def contains (hs : Headers) (name : HeaderName) : Bool := (hs.get? name).isSome

def remove (hs : Headers) (name : HeaderName) : Headers := hs.filter fun (n, _) => n ≠ name

/-- Makes a value the only one of its name. -/
def insert (hs : Headers) (name : HeaderName) (value : HeaderValue) : Headers :=
  hs.remove name ++ [(name, value)]

def field (name value : String) : HeaderName × HeaderValue :=
  (name.toList, Utf8.encode value.toList)

variable {hs : Headers} {n m : HeaderName} {v : HeaderValue}

@[simp] theorem values_nil (n : HeaderName) : values [] n = [] := rfl

@[simp] theorem values_append (hs hs' : Headers) (n : HeaderName) :
    values (hs ++ hs') n = values hs n ++ values hs' n := by
  simp [values]

theorem values_cons (f : HeaderName × HeaderValue) (hs : Headers) (n : HeaderName) :
    values (f :: hs) n = if f.1 = n then f.2 :: values hs n else values hs n := by
  obtain ⟨m, v⟩ := f
  by_cases h : m = n <;> simp [values, h]

theorem values_filter (p : HeaderName → Bool) (hs : Headers) (n : HeaderName) :
    values (hs.filter fun f => p f.1) n = if p n then values hs n else [] := by
  induction hs with
  | nil => simp
  | cons f hs ih =>
    by_cases hf : p f.1 <;> by_cases hn : f.1 = n
    · subst hn; simp [values_cons, hf, ih]
    · simp [values_cons, hf, hn, ih]
    · subst hn; simp [hf, ih]
    · simp [values_cons, hf, hn, ih]

theorem values_remove : values (hs.remove m) n = if n = m then [] else values hs n := by
  have := values_filter (fun k => decide (k ≠ m)) hs n
  by_cases h : n = m <;> simp_all [remove]

theorem values_insert : values (hs.insert m v) n = if n = m then [v] else values hs n := by
  rw [insert, values_append, values_remove, values_cons]
  by_cases h : n = m
  · simp [h]
  · simp [h, Ne.symm h]

end Headers

end SiteGateway
