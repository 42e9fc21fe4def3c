import ApiKeys.Text.EastAsian.Big5
import ApiKeys.Text.EastAsian.Gb2312
import ApiKeys.Text.EastAsian.HongKong
import ApiKeys.Text.EastAsian.Step

/-!
# Chinese codes

The codes of the mainland have the characters of GB 2312, to which GBK adds the other ideographs of
Unicode, and GB 18030 all other characters, in four octets. Those of Taiwan have the characters of
Big5, and that of Hong Kong some more.
-/

namespace ApiKeys.EastAsian

/-! ## The mainland -/

/-- GB 2312 in octets that are not in ASCII. -/
def gb2312Plane : Plane := ⟨[(0xa1, 0xf7)], [(0xa1, 0xfe)], gb2312⟩

/-- The ideographs of GBK that are not in GB 2312. -/
def gbkIdeographs : List Char :=
  Plane.others 0x4e00 0x9fa5 gb2312 ++
    ("\uf92c\uf979\uf995\uf9e7\uf9f1\ufa0c\ufa0d\ufa0e\ufa0f\ufa11\ufa13\ufa14\ufa18" ++
      "\ufa1f\ufa20\ufa21\ufa23\ufa24\ufa27\ufa28\ufa29").toList

/-- The rows of GBK before those of GB 2312, and the columns. -/
def gbkBefore : OctetRuns × OctetRuns := ([(0x81, 0xa0)], [(0x40, 0x7e), (0x80, 0xfe)])

/-- The planes of GBK. A dot and a dash differ from those of GB 2312. -/
def gbkPlanes : List Plane :=
  let ideographs := (gbkIdeographs.map fun c => [c]).toArray
  let before := gbkBefore.1.count * gbkBefore.2.count
  [{ gb2312Plane with texts := (gb2312.setIfInBounds 3 ['·']).setIfInBounds 9 ['—'] },
    ⟨gbkBefore.1, gbkBefore.2, ideographs⟩,
    ⟨[(0xaa, 0xfe)], [(0x40, 0x7e), (0x80, 0xa0)], ideographs.extract before ideographs.size⟩,
    .part 0xa2a1 [.run 0x2170 10], .part 0xa6e0 [.chars "︵︶︹︺︿﹀︽︾﹁﹂﹃﹄"],
    .part 0xa6ee [.chars "︻︼︷︸︱"], .part 0xa6f4 [.chars "︳︴"],
    .part 0xa840 [.chars "\u02ca\u02cb\u02d9–―‥‵℅℉↖↗↘↙∕∟∣≒≦≧⊿", .run 0x2550 36, .run 0x2581 7],
    .part 0xa880 [.run 0x2588 8, .chars "▓▔▕▼▽◢◣◤◥☉⊕〒〝〞"], .part 0xa8bb [.chars "ɑ"],
    .part 0xa8bd [.chars "ńň"], .part 0xa8c0 [.chars "ɡ"],
    .part 0xa940 [.run 0x3021 9, .chars "㊣㎎㎏㎜㎝㎞㎡㏄㏎㏑㏒㏕︰￢￤"],
    .part 0xa959 [.chars "℡㈱"], .part 0xa95c [.chars "‐"],
    .part 0xa960 [.chars "ー゛゜ヽヾ〆ゝゞ", .run 0xfe49 10, .chars "﹔﹕﹖﹗", .run 0xfe59 9],
    .part 0xa980 [.chars "﹢﹣﹤﹥﹦﹨﹩﹪﹫"], .part 0xa996 [.chars "〇"]]

/-- The planes of the pairs of GB 18030. What GBK leaves free is for private use, but for a few
characters. -/
def gb18030Planes : List Plane :=
  gbkPlanes ++ [
    ⟨[(0xaa, 0xaf)], [(0xa1, 0xfe)], Stretch.texts [.run 0xe000 564]⟩,
    ⟨[(0xf8, 0xfe)], [(0xa1, 0xfe)], Stretch.texts [.run 0xe234 658]⟩,
    ⟨[(0xa1, 0xa7)], [(0x40, 0x7e), (0x80, 0xa0)], Stretch.texts [.run 0xe4c6 672]⟩,
    .part 0xa2ab [.run 0xe766 6], .part 0xa2e3 [.chars "€"], .part 0xa2e4 [.run 0xe76d 1],
    .part 0xa2ef [.run 0xe76e 2], .part 0xa2fd [.run 0xe770 2], .part 0xa4f4 [.run 0xe772 11],
    .part 0xa5f7 [.run 0xe77d 8], .part 0xa6b9 [.run 0xe785 8], .part 0xa6d9 [.run 0xe78d 7],
    .part 0xa6ec [.run 0xe794 2], .part 0xa6f3 [.run 0xe796 1], .part 0xa6f6 [.run 0xe797 9],
    .part 0xa7c2 [.run 0xe7a0 15], .part 0xa7f2 [.run 0xe7af 13], .part 0xa896 [.run 0xe7bc 11],
    .part 0xa8bc [.run 0xe7c7 1], .part 0xa8bf [.chars "ǹ"], .part 0xa8c1 [.run 0xe7c9 4],
    .part 0xa8ea [.run 0xe7cd 21], .part 0xa958 [.run 0xe7e2 1], .part 0xa95b [.run 0xe7e3 1],
    .part 0xa95d [.run 0xe7e4 3], .part 0xa989 [.chars "〾", .run 0x2ff0 12],
    .part 0xa997 [.run 0xe7f4 13], .part 0xa9f0 [.run 0xe801 15], .part 0xd7fa [.run 0xe810 5],
    .part 0xfe50 [.chars "⺁"], .part 0xfe51 [.run 0xe816 3], .part 0xfe54 [.chars "⺄㑳㑇⺈⺋"],
    .part 0xfe59 [.run 0xe81e 1], .part 0xfe5a [.chars "㖞㘚㘎⺌⺗㥮㤘"],
    .part 0xfe61 [.run 0xe826 1], .part 0xfe62 [.chars "㧏㧟㩳㧐"], .part 0xfe66 [.run 0xe82b 2],
    .part 0xfe68 [.chars "㭎㱮㳠⺧"], .part 0xfe6c [.run 0xe831 2],
    .part 0xfe6e [.chars "⺪䁖䅟⺮䌷⺳⺶⺷"], .part 0xfe76 [.run 0xe83b 1],
    .part 0xfe77 [.chars "䎱䎬⺻䏝䓖䙡䙌"], .part 0xfe7e [.run 0xe843 1],
    .part 0xfe80 [.chars "䜣䜩䝼䞍⻊䥇䥺䥽䦂䦃䦅䦆䦟䦛䦷䦶"], .part 0xfe90 [.run 0xe854 2],
    .part 0xfe92 [.chars "䲣䲟䲠䲡䱷䲢", .run 0x4d13 7, .chars "䶮"], .part 0xfea0 [.run 0xe864 1]]

/-- The other characters of two octets in UTF-16. -/
def gb18030Others : Array Char :=
  (Plane.others 0x80 0xffff (gb18030Planes.foldl (fun texts p => texts ++ p.texts) #[])).toArray

/-- The text of the number of four octets. -/
def gb18030Text (n : Nat) : List Char :=
  match gb18030Others[n]? with
  | some c => [c]
  | none =>
    if 189000 ≤ n ∧ n - 189000 < 0x100000 then [Char.ofNat (0x10000 + (n - 189000))] else []

/-- The step of GB 18030: four octets are told by the second one, which is a digit. -/
def gb18030Step : Unit → List UInt8 → Step Unit
  | (), a :: b :: s =>
    if a ≥ 0x80 ∧ 0x30 ≤ b ∧ b ≤ 0x39 then
      match s with
      | c :: d :: _ =>
        if 0x81 ≤ a ∧ a ≤ 0xfe ∧ 0x81 ≤ c ∧ c ≤ 0xfe ∧ 0x30 ≤ d ∧ d ≤ 0x39 then
          let pair := (a.toNat - 0x81) * 10 + (b.toNat - 0x30)
          .ofText (gb18030Text (pair * 1260 + (c.toNat - 0x81) * 10 + (d.toNat - 0x30))) 4 () 1
        else .illegal 1
      | _ => .incomplete
    else pairStep asciiChar? beyondAscii gb18030Planes () (a :: b :: s)
  | (), s => pairStep asciiChar? beyondAscii gb18030Planes () s

/-- GB 2312 in octets that are in ASCII. -/
def gb2312Shifted : Plane := ⟨[(0x21, 0x77)], [(0x21, 0x7e)], gb2312⟩

/-- The step of HZ: a tilde starts or ends the pairs of octets that stand for the characters of
GB 2312, drops the end of a line, or stands for itself. The state tells whether pairs are read. -/
def hzStep : Bool → List UInt8 → Step Bool
  | _, [] | _, [0x7e] => .incomplete
  | false, 0x7e :: 0x7e :: _ => .text ['~'] 2 false
  | false, 0x7e :: 0x7b :: _ => .text [] 2 true
  | false, 0x7e :: 0x0a :: _ => .text [] 2 false
  | true, 0x7e :: 0x7d :: _ => .text [] 2 false
  | _, 0x7e :: _ => .illegal 1
  | false, a :: _ => .ofText (asciiChar? a).toList 1 false 1
  | true, [a] => if a < 0x80 then .incomplete else .illegal 1
  | true, a :: b :: _ => .ofText (gb2312Shifted.text a b) 2 true 1

/-! ## Taiwan and Hong Kong -/

/-- The columns of Big5. -/
def big5Columns : OctetRuns := [(0x40, 0x7e), (0xa1, 0xfe)]

/-- Big5 in its rows. -/
def big5Plane : Plane := ⟨[(0xa1, 0xf9)], big5Columns, big5⟩

/-- The planes of code page 950. -/
def cp950Planes : List Plane := [
  .part 0xa145 [.chars "‧"], .part 0xa14e [.chars "﹑"], .part 0xa1c2 [.chars "\u00af"],
  .part 0xa1e3 [.chars "～"], .part 0xa1f2 [.chars "⊕⊙"], .part 0xa241 [.chars "∕﹨"],
  .part 0xa244 [.chars "￥"], .part 0xa246 [.chars "￠￡"], .part 0xa3e1 [.chars "€"],
  .part 0xf9d6 [.chars "碁銹裏墻恒粧嫺╔╦╗╠╬╣╚╩╝╒╤╕╞╪╡╘╧╛╓╥╖╟╫╢╙╨╜║═╭╮╰╯▓"], big5Plane]

/-- The planes of the code of Hong Kong, which gives the rows of some signs to others. -/
def hongKongPlanes : List Plane := [
  ⟨[(0x87, 0xfe)], big5Columns, hongKong⟩,
  ⟨[(0x88, 0x88)], [(0x62, 0x62), (0x64, 0x64), (0xa3, 0xa3), (0xa5, 0xa5)],
    #[['Ê', '\u0304'], ['Ê', '\u030c'], ['ê', '\u0304'], ['ê', '\u030c']]⟩,
  ⟨[(0xa1, 0xc5)], big5Columns, big5⟩,
  ⟨[(0xc6, 0xc6)], [(0x40, 0x7e)], big5.extract 5809 5872⟩,
  ⟨[(0xc9, 0xf9)], big5Columns, big5.extract 6280 big5.size⟩]

end ApiKeys.EastAsian
