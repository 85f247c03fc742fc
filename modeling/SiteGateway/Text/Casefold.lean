import SiteGateway.Text.Lowercase

/-!
# Case folding

The full Unicode case folding of a text. Two texts are the same, letter case aside, if they fold to
one text. Letters fold to their lower case, apart from those that have several lower cases or whose
upper case is more than one letter.
-/

namespace SiteGateway

namespace Casefold

/-- Characters that fold to a single one that is not their lower case. -/
def single : List Shift := Shift.table
  "b5-b5/1+307 17f-17f/1~10c 345-345/1+74 3c2-3c2/1+1 3d0-3d0/1~1e 3d1-3d1/1~19 3d5-3d5/1~f
   3d6-3d6/1~16 3f0-3f0/1~36 3f1-3f1/1~30 3f5-3f5/1~40 13a0-13f5/1+0 13f8-13fd/1~8
   1c80-1c80/1~184e 1c81-1c81/1~184d 1c82-1c82/1~1844 1c83-1c84/1~1842 1c85-1c85/1~1843
   1c86-1c86/1~183c 1c87-1c87/1~1824 1c88-1c88/1+89c3 1e9b-1e9b/1~3a 1fbe-1fbe/1~1c05
   ab70-abbf/1~97d0"

/-- Characters that fold to several. -/
def several : Expansions := Expansions.table
  "df=73,73 149=2bc,6e 1f0=6a,30c 390=3b9,308,301 3b0=3c5,308,301 587=565,582 1e96=68,331
   1e97=74,308 1e98=77,30a 1e99=79,30a 1e9a=61,2be 1e9e=73,73 1f50=3c5,313 1f52=3c5,313,300
   1f54=3c5,313,301 1f56=3c5,313,342 1f80=1f00,3b9 1f81=1f01,3b9 1f82=1f02,3b9 1f83=1f03,3b9
   1f84=1f04,3b9 1f85=1f05,3b9 1f86=1f06,3b9 1f87=1f07,3b9 1f88=1f00,3b9 1f89=1f01,3b9
   1f8a=1f02,3b9 1f8b=1f03,3b9 1f8c=1f04,3b9 1f8d=1f05,3b9 1f8e=1f06,3b9 1f8f=1f07,3b9
   1f90=1f20,3b9 1f91=1f21,3b9 1f92=1f22,3b9 1f93=1f23,3b9 1f94=1f24,3b9 1f95=1f25,3b9
   1f96=1f26,3b9 1f97=1f27,3b9 1f98=1f20,3b9 1f99=1f21,3b9 1f9a=1f22,3b9 1f9b=1f23,3b9
   1f9c=1f24,3b9 1f9d=1f25,3b9 1f9e=1f26,3b9 1f9f=1f27,3b9 1fa0=1f60,3b9 1fa1=1f61,3b9
   1fa2=1f62,3b9 1fa3=1f63,3b9 1fa4=1f64,3b9 1fa5=1f65,3b9 1fa6=1f66,3b9 1fa7=1f67,3b9
   1fa8=1f60,3b9 1fa9=1f61,3b9 1faa=1f62,3b9 1fab=1f63,3b9 1fac=1f64,3b9 1fad=1f65,3b9
   1fae=1f66,3b9 1faf=1f67,3b9 1fb2=1f70,3b9 1fb3=3b1,3b9 1fb4=3ac,3b9 1fb6=3b1,342
   1fb7=3b1,342,3b9 1fbc=3b1,3b9 1fc2=1f74,3b9 1fc3=3b7,3b9 1fc4=3ae,3b9 1fc6=3b7,342
   1fc7=3b7,342,3b9 1fcc=3b7,3b9 1fd2=3b9,308,300 1fd3=3b9,308,301 1fd6=3b9,342
   1fd7=3b9,308,342 1fe2=3c5,308,300 1fe3=3c5,308,301 1fe4=3c1,313 1fe6=3c5,342
   1fe7=3c5,308,342 1ff2=1f7c,3b9 1ff3=3c9,3b9 1ff4=3ce,3b9 1ff6=3c9,342 1ff7=3c9,342,3b9
   1ffc=3c9,3b9 fb00=66,66 fb01=66,69 fb02=66,6c fb03=66,66,69 fb04=66,66,6c fb05=73,74
   fb06=73,74 fb13=574,576 fb14=574,565 fb15=574,56b fb16=57e,576 fb17=574,56d"

/-- What a character folds to. -/
def letter (c : Char) : Text :=
  if c.toNat < 0x80 then [c.toLower]
  else
    match several.find? c with
    | some cs => cs
    | none =>
      if single.any (·.covers c.toNat) then [Shift.apply single c] else Lowercase.letter [] c []

end Casefold

/-- Full Unicode case folding. -/
def Text.casefold (t : Text) : Text := t.flatMap Casefold.letter

end SiteGateway
