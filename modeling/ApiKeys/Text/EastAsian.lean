import ApiKeys.Text.EastAsian.Iso2022

/-!
# Codes of East Asia

The codes that have more characters than there are octets, so that most characters take several.
-/

namespace ApiKeys

/-- A code of East Asia. -/
inductive EastAsianCode where
  | big5
  | big5HongKong
  | cp932
  | cp949
  | cp950
  | eucJisx0213 (e : EastAsian.Edition)
  | eucJp
  | eucKr
  | gb18030
  | gb2312
  | gbk
  | hz
  | iso2022 (v : EastAsian.Iso2022)
  | johab
  | shiftJis
  | shiftJisx0213 (e : EastAsian.Edition)
  deriving DecidableEq

namespace EastAsianCode

/-- The codes. -/
def list : List EastAsianCode :=
  [big5, big5HongKong, cp932, cp949, cp950, eucJisx0213 .of2004, eucJisx0213 .of2000, eucJp, eucKr,
    gb18030, gb2312, gbk, hz, iso2022 .jp, iso2022 .jp1, iso2022 .jp2, iso2022 .jp2004,
    iso2022 .jp3, iso2022 .jpExtended, iso2022 .kr, johab, shiftJis, shiftJisx0213 .of2004,
    shiftJisx0213 .of2000]

/-! ## Names -/

/-- The name of a code, with a low line between words. -/
def title : EastAsianCode → String
  | big5 => "big5"
  | big5HongKong => "big5hkscs"
  | cp932 => "cp932"
  | cp949 => "cp949"
  | cp950 => "cp950"
  | eucJisx0213 .of2004 => "euc_jis_2004"
  | eucJisx0213 .of2000 => "euc_jisx0213"
  | eucJp => "euc_jp"
  | eucKr => "euc_kr"
  | gb18030 => "gb18030"
  | gb2312 => "gb2312"
  | gbk => "gbk"
  | hz => "hz"
  | iso2022 .jp => "iso2022_jp"
  | iso2022 .jp1 => "iso2022_jp_1"
  | iso2022 .jp2 => "iso2022_jp_2"
  | iso2022 .jp2004 => "iso2022_jp_2004"
  | iso2022 .jp3 => "iso2022_jp_3"
  | iso2022 .jpExtended => "iso2022_jp_ext"
  | iso2022 .kr => "iso2022_kr"
  | johab => "johab"
  | shiftJis => "shift_jis"
  | shiftJisx0213 .of2004 => "shift_jis_2004"
  | shiftJisx0213 .of2000 => "shift_jisx0213"

/-- The other names of a code. -/
def otherNames : EastAsianCode → List String
  | big5 => ["big5_tw", "csbig5", "x_mac_trad_chinese"]
  | big5HongKong => ["big5_hkscs", "hkscs"]
  | cp932 => ["932", "ms932", "mskanji", "ms_kanji"]
  | cp949 => ["949", "ms949", "uhc"]
  | cp950 => ["950", "ms950"]
  | eucJisx0213 .of2004 => ["jisx0213", "eucjis2004", "euc_jis2004"]
  | eucJisx0213 .of2000 => ["eucjisx0213"]
  | eucJp => ["eucjp", "ujis", "u_jis"]
  | eucKr =>
    ["euckr", "korean", "ksc5601", "ks_c_5601", "ks_c_5601_1987", "ksx1001", "ks_x_1001",
      "x_mac_korean"]
  | gb18030 => ["gb18030_2000"]
  | gb2312 =>
    ["chinese", "csiso58gb231280", "euc_cn", "euccn", "eucgb2312_cn", "gb2312_1980", "gb2312_80",
      "iso_ir_58", "x_mac_simp_chinese"]
  | gbk => ["936", "cp936", "ms936"]
  | hz => ["hzgb", "hz_gb", "hz_gb_2312"]
  | iso2022 .jp => ["csiso2022jp", "iso2022jp", "iso_2022_jp"]
  | iso2022 .jp1 => ["iso2022jp_1", "iso_2022_jp_1"]
  | iso2022 .jp2 => ["iso2022jp_2", "iso_2022_jp_2"]
  | iso2022 .jp2004 => ["iso_2022_jp_2004", "iso2022jp_2004"]
  | iso2022 .jp3 => ["iso2022jp_3", "iso_2022_jp_3"]
  | iso2022 .jpExtended => ["iso2022jp_ext", "iso_2022_jp_ext"]
  | iso2022 .kr => ["csiso2022kr", "iso2022kr", "iso_2022_kr"]
  | johab => ["cp1361", "ms1361"]
  | shiftJis => ["csshiftjis", "shiftjis", "sjis", "s_jis", "x_mac_japanese"]
  | shiftJisx0213 .of2004 => ["shiftjis2004", "sjis_2004", "s_jis_2004"]
  | shiftJisx0213 .of2000 => ["shiftjisx0213", "sjisx0213", "s_jisx0213"]

/-! ## Texts -/

open EastAsian in
/-- The text of octets. -/
def decode (c : EastAsianCode) (octets : List UInt8) : Except DecodingFault Text :=
  let inSteps := fun step => decodeFrom c.title step 0 () 0 octets
  let inPlanes := fun planes => inSteps (pairStep asciiChar? beyondAscii planes)
  match c with
  | big5 => inPlanes [big5Plane]
  | big5HongKong => inPlanes hongKongPlanes
  | cp932 => inSteps cp932Step
  | cp949 => inPlanes cp949Planes
  | cp950 => inPlanes cp950Planes
  | eucJisx0213 e => inSteps (eucJisx0213Step e)
  | eucJp => inSteps eucJpStep
  | eucKr => inSteps eucKrStep
  | gb18030 => inSteps gb18030Step
  | gb2312 => inPlanes [gb2312Plane]
  | gbk => inPlanes gbkPlanes
  | hz => decodeFrom c.title hzStep 0 false 0 octets
  | iso2022 v => decodeFrom c.title v.step 0 .start 0 octets
  | johab => inSteps johabStep
  | shiftJis => inSteps shiftJisStep
  | shiftJisx0213 e => inSteps (shiftJisx0213Step e)

end EastAsianCode

end ApiKeys
