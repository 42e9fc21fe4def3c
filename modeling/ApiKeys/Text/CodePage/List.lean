import ApiKeys.Text.CodePage

/-!
# The code pages in use

The families of ISO 8859 and KOI8, and those of the makers of systems. A title is in lower case with
a low line between words; the pages are in the order of their titles.
-/

namespace ApiKeys.CodePage

/-- The code pages. -/
def list : List CodePage := [
  ⟨"charmap", [],
    0x80, [.run 0x80 128]⟩,
  ⟨"cp037", ["037", "csibm037", "ebcdic_cp_ca", "ebcdic_cp_nl", "ebcdic_cp_us", "ebcdic_cp_wt",
      "ibm037", "ibm039"],
    0, [.run 0x0 4, .chars "\x9c\x09\x86\x7f\x97\x8d\x8e", .run 0xb 9,
      .chars "\x9d\x85\x08\x87\x18\x19\x92\x8f", .run 0x1c 4, .run 0x80 5, .chars "\x0a\x17\x1b",
      .run 0x88 5, .chars "\x05\x06\x07\x90\x91\x16", .run 0x93 4, .chars "\x04", .run 0x98 4,
      .chars "\x14\x15\x9e\x1a\x20\xa0âäàáãåçñ¢.<(+|&éêëèíîïìß!$*);¬-/ÂÄÀÁ",
      .chars "ÃÅÇÑ¦,%_>?øÉÊËÈÍÎÏÌ\x60:#@'=\x22Øabcdefghi«»ðýþ±°jklmnopqrªº",
      .chars "æ¸Æ¤µ~stuvwxyz¡¿ÐÝÞ®^£¥·©§¶¼½¾[]¯¨´×\x7bABCDEFGHI\xadôöòóõ",
      .chars "\x7dJKLMNOPQR¹ûüùúÿ\x5c÷STUVWXYZ²ÔÖÒÓÕ0123456789³ÛÜÙÚ\x9f"]⟩,
  ⟨"cp1006", [],
    0x80, [.run 0x80 33, .chars "۰۱۲۳۴۵۶۷۸۹،\u061b\xad\u061f\ufe81\ufe8d\ufe8e\ufe8e\ufe8f",
      .chars "\ufe91\ufb56\ufb58\ufe93\ufe95\ufe97\ufb66\ufb68\ufe99\ufe9b",
      .chars "\ufe9d\ufe9f\ufb7a\ufb7c\ufea1\ufea3\ufea5\ufea7\ufea9\ufb84",
      .chars "\ufeab\ufead\ufb8c\ufeaf\ufb8a\ufeb1\ufeb3\ufeb5\ufeb7\ufeb9",
      .chars "\ufebb\ufebd\ufebf\ufec1\ufec5", .run 0xfec9 9,
      .chars "\ufed3\ufed5\ufed7\ufed9\ufedb\ufb92\ufb94\ufedd", .run 0xfedf 3,
      .chars "\ufee3\ufb9e\ufee5\ufee7\ufe85\ufeed\ufba6", .run 0xfba8 3, .chars "\ufe80",
      .run 0xfe89 3, .run 0xfef1 3, .chars "\ufbb0\ufbae\ufe7c\ufe7d"]⟩,
  ⟨"cp1026", ["1026", "csibm1026", "ibm1026"],
    0, [.run 0x0 4, .chars "\x9c\x09\x86\x7f\x97\x8d\x8e", .run 0xb 9,
      .chars "\x9d\x85\x08\x87\x18\x19\x92\x8f", .run 0x1c 4, .run 0x80 5, .chars "\x0a\x17\x1b",
      .run 0x88 5, .chars "\x05\x06\x07\x90\x91\x16", .run 0x93 4, .chars "\x04", .run 0x98 4,
      .chars "\x14\x15\x9e\x1a\x20\xa0âäàáãå\x7bñÇ.<(+!&éêëèíîïìßĞİ*);^-/Â",
      .chars "ÄÀÁÃÅ[Ñş,%_>?øÉÊËÈÍÎÏÌı:ÖŞ'=ÜØabcdefghi«»\x7d\x60¦±°jklmnopq",
      .chars "rªºæ¸Æ¤µöstuvwxyz¡¿]$@®¢£¥·©§¶¼½¾¬|¯¨´×çABCDEFGHI\xadô~òóõğJ",
      .chars "KLMNOPQR¹û\x5cùúÿü÷STUVWXYZ²Ô#ÒÓÕ0123456789³Û\x22ÙÚ\x9f"]⟩,
  ⟨"cp1125", ["1125", "cp866u", "ibm1125", "ruscii"],
    0x80, [.run 0x410 48, .chars "░▒▓│┤╡╢╖╕╣║╗╝╜╛┐└┴┬├─┼╞╟╚╔╩╦╠═╬╧╨╤╥╙╘╒╓╫╪┘┌█▄▌▐▀",
      .run 0x440 16, .chars "ЁёҐґЄєІіЇї·√№¤■\xa0"]⟩,
  ⟨"cp1140", ["1140", "ibm1140"],
    0, [.run 0x0 4, .chars "\x9c\x09\x86\x7f\x97\x8d\x8e", .run 0xb 9,
      .chars "\x9d\x85\x08\x87\x18\x19\x92\x8f", .run 0x1c 4, .run 0x80 5, .chars "\x0a\x17\x1b",
      .run 0x88 5, .chars "\x05\x06\x07\x90\x91\x16", .run 0x93 4, .chars "\x04", .run 0x98 4,
      .chars "\x14\x15\x9e\x1a\x20\xa0âäàáãåçñ¢.<(+|&éêëèíîïìß!$*);¬-/ÂÄÀÁ",
      .chars "ÃÅÇÑ¦,%_>?øÉÊËÈÍÎÏÌ\x60:#@'=\x22Øabcdefghi«»ðýþ±°jklmnopqrªº",
      .chars "æ¸Æ€µ~stuvwxyz¡¿ÐÝÞ®^£¥·©§¶¼½¾[]¯¨´×\x7bABCDEFGHI\xadôöòóõ",
      .chars "\x7dJKLMNOPQR¹ûüùúÿ\x5c÷STUVWXYZ²ÔÖÒÓÕ0123456789³ÛÜÙÚ\x9f"]⟩,
  ⟨"cp1250", ["1250", "windows_1250"],
    0x80, [.chars "€", .gap 1, .chars "‚", .gap 1, .chars "„…†‡", .gap 1, .chars "‰Š‹ŚŤŽŹ",
      .gap 1, .chars "‘’“”•–—", .gap 1,
      .chars "™š›śťžź\xa0\u02c7˘Ł¤Ą¦§¨©Ş«¬\xad®Ż°±˛ł´µ¶·¸ąş»Ľ˝ľżŔÁÂĂÄĹĆÇČÉ",
      .chars "ĘËĚÍÎĎĐŃŇÓÔŐÖ×ŘŮÚŰÜÝŢßŕáâăäĺćçčéęëěíîďđńňóôőö÷řůúűüýţ˙"]⟩,
  ⟨"cp1251", ["1251", "windows_1251"],
    0x80, [.chars "ЂЃ‚ѓ„…†‡€‰Љ‹ЊЌЋЏђ‘’“”•–—", .gap 1,
      .chars "™љ›њќћџ\xa0ЎўЈ¤Ґ¦§Ё©Є«¬\xad®Ї°±Ііґµ¶·ё№є»јЅѕї", .run 0x410 64]⟩,
  ⟨"cp1252", ["1252", "windows_1252"],
    0x80, [.chars "€", .gap 1, .chars "‚ƒ„…†‡\u02c6‰Š‹Œ", .gap 1, .chars "Ž", .gap 2,
      .chars "‘’“”•–—˜™š›œ", .gap 1, .chars "žŸ", .run 0xa0 96]⟩,
  ⟨"cp1253", ["1253", "windows_1253"],
    0x80, [.chars "€", .gap 1, .chars "‚ƒ„…†‡", .gap 1, .chars "‰", .gap 1, .chars "‹", .gap 5,
      .chars "‘’“”•–—", .gap 1, .chars "™", .gap 1, .chars "›", .gap 4, .chars "\xa0΅Ά£¤¥¦§¨©",
      .gap 1, .chars "«¬\xad®―°±²³΄µ¶·ΈΉΊ»Ό½", .run 0x38e 20, .gap 1, .run 0x3a3 44, .gap 1]⟩,
  ⟨"cp1254", ["1254", "windows_1254"],
    0x80, [.chars "€", .gap 1, .chars "‚ƒ„…†‡\u02c6‰Š‹Œ", .gap 4, .chars "‘’“”•–—˜™š›œ", .gap 2,
      .chars "Ÿ", .run 0xa0 48, .chars "ĞÑÒÓÔÕÖ×ØÙÚÛÜİŞ", .run 0xdf 17, .chars "ğñòóôõö÷øùúûüışÿ"]⟩,
  ⟨"cp1255", ["1255", "windows_1255"],
    0x80, [.chars "€", .gap 1, .chars "‚ƒ„…†‡\u02c6‰", .gap 1, .chars "‹", .gap 5,
      .chars "‘’“”•–—˜™", .gap 1, .chars "›", .gap 4, .chars "\xa0¡¢£₪¥¦§¨©×", .run 0xab 15,
      .chars "÷»¼½¾¿", .run 0x5b0 10, .gap 1, .run 0x5bb 9, .run 0x5f0 5, .gap 7, .run 0x5d0 27,
      .gap 2, .chars "\u200e\u200f", .gap 1]⟩,
  ⟨"cp1256", ["1256", "windows_1256"],
    0x80, [.chars "€\u067e‚ƒ„…†‡\u02c6‰\u0679‹Œ\u0686\u0698\u0688\u06af‘’“”•–—",
      .chars "\u06a9™\u0691›œ\u200c\u200d\u06ba\xa0،¢£¤¥¦§¨©\u06be", .run 0xab 15,
      .chars "\u061b»¼½¾\u061f\u06c1", .run 0x621 22, .chars "×", .run 0x637 4, .run 0x640 4,
      .chars "à\u0644â", .run 0x645 4, .chars "çèéêë\u0649\u064aîï", .run 0x64b 4,
      .chars "ô\u064f\u0650÷\u0651ù\u0652ûü\u200e\u200f\u06d2"]⟩,
  ⟨"cp1257", ["1257", "windows_1257"],
    0x80, [.chars "€", .gap 1, .chars "‚", .gap 1, .chars "„…†‡", .gap 1, .chars "‰", .gap 1,
      .chars "‹", .gap 1, .chars "¨\u02c7¸", .gap 1, .chars "‘’“”•–—", .gap 1, .chars "™", .gap 1,
      .chars "›", .gap 1, .chars "¯˛", .gap 1, .chars "\xa0", .gap 1, .chars "¢£¤", .gap 1,
      .chars "¦§Ø©Ŗ«¬\xad®Æ°±²³´µ¶·ø¹ŗ»¼½¾æĄĮĀĆÄÅĘĒČÉŹĖĢĶĪĻŠŃŅÓŌÕÖ×ŲŁŚŪÜŻŽ",
      .chars "ßąįāćäåęēčéźėģķīļšńņóōõö÷ųłśūüżž˙"]⟩,
  ⟨"cp1258", ["1258", "windows_1258"],
    0x80, [.chars "€", .gap 1, .chars "‚ƒ„…†‡\u02c6‰", .gap 1, .chars "‹Œ", .gap 4,
      .chars "‘’“”•–—˜™", .gap 1, .chars "›œ", .gap 2, .chars "Ÿ", .run 0xa0 35,
      .chars "ĂÄÅÆÇÈÉÊË\u0300ÍÎÏĐÑ\u0309ÓÔƠÖ×ØÙÚÛÜƯ\u0303ßàáâăäåæçèéêë",
      .chars "\u0301íîïđñ\u0323óôơö÷øùúûüư₫ÿ"]⟩,
  ⟨"cp273", ["273", "csibm273", "ibm273"],
    0, [.run 0x0 4, .chars "\x9c\x09\x86\x7f\x97\x8d\x8e", .run 0xb 9,
      .chars "\x9d\x85\x08\x87\x18\x19\x92\x8f", .run 0x1c 4, .run 0x80 5, .chars "\x0a\x17\x1b",
      .run 0x88 5, .chars "\x05\x06\x07\x90\x91\x16", .run 0x93 4, .chars "\x04", .run 0x98 4,
      .chars "\x14\x15\x9e\x1a\x20\xa0â\x7bàáãåçñÄ.<(+!&éêëèíîïì~Ü$*);^-/Â",
      .chars "[ÀÁÃÅÇÑö,%_>?øÉÊËÈÍÎÏÌ\x60:#§'=\x22Øabcdefghi«»ðýþ±°jklmnopq",
      .chars "rªºæ¸Æ¤µßstuvwxyz¡¿ÐÝÞ®¢£¥·©@¶¼½¾¬|‾¨´×äABCDEFGHI\xadô¦òóõüJ",
      .chars "KLMNOPQR¹û\x7dùúÿÖ÷STUVWXYZ²Ô\x5cÒÓÕ0123456789³Û]ÙÚ\x9f"]⟩,
  ⟨"cp424", ["424", "csibm424", "ebcdic_cp_he", "ibm424"],
    0, [.run 0x0 4, .chars "\x9c\x09\x86\x7f\x97\x8d\x8e", .run 0xb 9,
      .chars "\x9d\x85\x08\x87\x18\x19\x92\x8f", .run 0x1c 4, .run 0x80 5, .chars "\x0a\x17\x1b",
      .run 0x88 5, .chars "\x05\x06\x07\x90\x91\x16", .run 0x93 4, .chars "\x04", .run 0x98 4,
      .chars "\x14\x15\x9e\x1a\x20", .run 0x5d0 9, .chars "¢.<(+|&", .run 0x5d9 9,
      .chars "!$*);¬-/", .run 0x5e2 8, .chars "¦,%_>?", .gap 1, .chars "\u05ea", .gap 2,
      .chars "\xa0", .gap 3, .chars "‗\x60:#@'=\x22", .gap 1, .chars "abcdefghi«»", .gap 3,
      .chars "±°jklmnopqr", .gap 3, .chars "¸", .gap 1, .chars "¤µ~stuvwxyz", .gap 5,
      .chars "®^£¥·©§¶¼½¾[]¯¨´×\x7bABCDEFGHI\xad", .gap 5, .chars "\x7dJKLMNOPQR¹", .gap 5,
      .chars "\x5c÷STUVWXYZ²", .gap 5, .chars "0123456789³", .gap 4, .chars "\x9f"]⟩,
  ⟨"cp437", ["437", "cspc8codepage437", "ibm437"],
    0x80, [.chars "ÇüéâäàåçêëèïîìÄÅÉæÆôöòûùÿÖÜ¢£¥₧ƒáíóúñÑªº¿⌐¬½¼¡«»░▒▓│┤╡╢╖╕╣║╗",
      .chars "╝╜╛┐└┴┬├─┼╞╟╚╔╩╦╠═╬╧╨╤╥╙╘╒╓╫╪┘┌█▄▌▐▀αßΓπΣσµτΦΘΩδ∞φε∩≡±≥≤⌠⌡÷≈",
      .chars "°∙·√\u207f²■\xa0"]⟩,
  ⟨"cp500", ["500", "csibm500", "ebcdic_cp_be", "ebcdic_cp_ch", "ibm500"],
    0, [.run 0x0 4, .chars "\x9c\x09\x86\x7f\x97\x8d\x8e", .run 0xb 9,
      .chars "\x9d\x85\x08\x87\x18\x19\x92\x8f", .run 0x1c 4, .run 0x80 5, .chars "\x0a\x17\x1b",
      .run 0x88 5, .chars "\x05\x06\x07\x90\x91\x16", .run 0x93 4, .chars "\x04", .run 0x98 4,
      .chars "\x14\x15\x9e\x1a\x20\xa0âäàáãåçñ[.<(+!&éêëèíîïìß]$*);^-/ÂÄÀÁ",
      .chars "ÃÅÇÑ¦,%_>?øÉÊËÈÍÎÏÌ\x60:#@'=\x22Øabcdefghi«»ðýþ±°jklmnopqrªº",
      .chars "æ¸Æ¤µ~stuvwxyz¡¿ÐÝÞ®¢£¥·©§¶¼½¾¬|¯¨´×\x7bABCDEFGHI\xadôöòóõ",
      .chars "\x7dJKLMNOPQR¹ûüùúÿ\x5c÷STUVWXYZ²ÔÖÒÓÕ0123456789³ÛÜÙÚ\x9f"]⟩,
  ⟨"cp720", [],
    0x80, [.chars "\x80\x81éâ\x84à\x86çêëèïî", .run 0x8d 4, .chars "\u0651\u0652ô¤\u0640ûù",
      .run 0x621 4, .chars "£", .run 0x625 17,
      .chars "«»░▒▓│┤╡╢╖╕╣║╗╝╜╛┐└┴┬├─┼╞╟╚╔╩╦╠═╬╧╨╤╥╙╘╒╓╫╪┘┌█▄▌▐▀", .run 0x636 5, .chars "\u0641µ",
      .run 0x642 9, .chars "≡", .run 0x64b 6, .chars "≈°∙·√\u207f²■\xa0"]⟩,
  ⟨"cp737", [],
    0x80, [.run 0x391 17, .chars "ΣΤΥΦΧΨΩ", .run 0x3b1 17,
      .chars "σςτυφχψ░▒▓│┤╡╢╖╕╣║╗╝╜╛┐└┴┬├─┼╞╟╚╔╩╦╠═╬╧╨╤╥╙╘╒╓╫╪┘┌█▄▌▐▀ωάέήϊ",
      .chars "ίόύϋώΆΈΉΊΌΎΏ±≥≤ΪΫ÷≈°∙·√\u207f²■\xa0"]⟩,
  ⟨"cp775", ["775", "cspc775baltic", "ibm775"],
    0x80, [.chars "ĆüéāäģåćłēŖŗīŹÄÅÉæÆōöĢ¢ŚśÖÜø£Ø×¤ĀĪóŻżź”¦©®¬½¼Ł«»░▒▓│┤ĄČĘĖ╣║╗",
      .chars "╝ĮŠ┐└┴┬├─┼ŲŪ╚╔╩╦╠═╬Žąčęėįšųūž┘┌█▄▌▐▀ÓßŌŃõÕµńĶķĻļņĒŅ’\xad±“¾¶",
      .chars "§÷„°∙·¹³²■\xa0"]⟩,
  ⟨"cp850", ["850", "cspc850multilingual", "ibm850"],
    0x80, [.chars "ÇüéâäàåçêëèïîìÄÅÉæÆôöòûùÿÖÜø£Ø×ƒáíóúñÑªº¿®¬½¼¡«»░▒▓│┤ÁÂÀ©╣║╗",
      .chars "╝¢¥┐└┴┬├─┼ãÃ╚╔╩╦╠═╬¤ðÐÊËÈıÍÎÏ┘┌█▄¦Ì▀ÓßÔÒõÕµþÞÚÛÙýÝ¯´\xad±‗¾¶",
      .chars "§÷¸°¨·¹³²■\xa0"]⟩,
  ⟨"cp852", ["852", "cspcp852", "ibm852"],
    0x80, [.chars "ÇüéâäůćçłëŐőîŹÄĆÉĹĺôöĽľŚśÖÜŤťŁ×čáíóúĄąŽžĘę¬źČş«»░▒▓│┤ÁÂĚŞ╣║╗",
      .chars "╝Żż┐└┴┬├─┼Ăă╚╔╩╦╠═╬¤đĐĎËďŇÍÎě┘┌█▄ŢŮ▀ÓßÔŃńňŠšŔÚŕŰýÝţ´\xad˝˛",
      .chars "\u02c7˘§÷¸°¨˙űŘř■\xa0"]⟩,
  ⟨"cp855", ["855", "csibm855", "ibm855"],
    0x80, [.chars "ђЂѓЃёЁєЄѕЅіІїЇјЈљЉњЊћЋќЌўЎџЏюЮъЪаАбБцЦдДеЕфФгГ«»░▒▓│┤хХиИ╣║╗",
      .chars "╝йЙ┐└┴┬├─┼кК╚╔╩╦╠═╬¤лЛмМнНоОп┘┌█▄Пя▀ЯрРсСтТуУжЖвВьЬ№\xadыЫзЗ",
      .chars "шШэЭщЩчЧ§■\xa0"]⟩,
  ⟨"cp856", [],
    0x80, [.run 0x5d0 27, .gap 1, .chars "£", .gap 1, .chars "×", .gap 10, .chars "®¬½¼", .gap 1,
      .chars "«»░▒▓│┤", .gap 3, .chars "©╣║╗╝¢¥┐└┴┬├─┼", .gap 2, .chars "╚╔╩╦╠═╬¤", .gap 9,
      .chars "┘┌█▄¦", .gap 1, .chars "▀", .gap 6, .chars "µ", .gap 7,
      .chars "¯´\xad±‗¾¶§÷¸°¨·¹³²■\xa0"]⟩,
  ⟨"cp857", ["857", "csibm857", "ibm857"],
    0x80, [.chars "ÇüéâäàåçêëèïîıÄÅÉæÆôöòûùİÖÜø£ØŞşáíóúñÑĞğ¿®¬½¼¡«»░▒▓│┤ÁÂÀ©╣║╗",
      .chars "╝¢¥┐└┴┬├─┼ãÃ╚╔╩╦╠═╬¤ºªÊËÈ", .gap 1, .chars "ÍÎÏ┘┌█▄¦Ì▀ÓßÔÒõÕµ", .gap 1,
      .chars "×ÚÛÙìÿ¯´\xad±", .gap 1, .chars "¾¶§÷¸°¨·¹³²■\xa0"]⟩,
  ⟨"cp858", ["858", "csibm858", "ibm858"],
    0x80, [.chars "ÇüéâäàåçêëèïîìÄÅÉæÆôöòûùÿÖÜø£Ø×ƒáíóúñÑªº¿®¬½¼¡«»░▒▓│┤ÁÂÀ©╣║╗",
      .chars "╝¢¥┐└┴┬├─┼ãÃ╚╔╩╦╠═╬¤ðÐÊËÈ€ÍÎÏ┘┌█▄¦Ì▀ÓßÔÒõÕµþÞÚÛÙýÝ¯´\xad±‗¾¶",
      .chars "§÷¸°¨·¹³²■\xa0"]⟩,
  ⟨"cp860", ["860", "csibm860", "ibm860"],
    0x80, [.chars "ÇüéâãàÁçêÊèÍÔìÃÂÉÀÈôõòÚùÌÕÜ¢£Ù₧ÓáíóúñÑªº¿Ò¬½¼¡«»░▒▓│┤╡╢╖╕╣║╗",
      .chars "╝╜╛┐└┴┬├─┼╞╟╚╔╩╦╠═╬╧╨╤╥╙╘╒╓╫╪┘┌█▄▌▐▀αßΓπΣσµτΦΘΩδ∞φε∩≡±≥≤⌠⌡÷≈",
      .chars "°∙·√\u207f²■\xa0"]⟩,
  ⟨"cp861", ["861", "cp_is", "csibm861", "ibm861"],
    0x80, [.chars "ÇüéâäàåçêëèÐðÞÄÅÉæÆôöþûÝýÖÜø£Ø₧ƒáíóúÁÍÓÚ¿⌐¬½¼¡«»░▒▓│┤╡╢╖╕╣║╗",
      .chars "╝╜╛┐└┴┬├─┼╞╟╚╔╩╦╠═╬╧╨╤╥╙╘╒╓╫╪┘┌█▄▌▐▀αßΓπΣσµτΦΘΩδ∞φε∩≡±≥≤⌠⌡÷≈",
      .chars "°∙·√\u207f²■\xa0"]⟩,
  ⟨"cp862", ["862", "cspc862latinhebrew", "ibm862"],
    0x80, [.run 0x5d0 27, .chars "¢£¥₧ƒáíóúñÑªº¿⌐¬½¼¡«»░▒▓│┤╡╢╖╕╣║╗╝╜╛┐└┴┬├─┼╞╟╚╔╩╦╠═╬╧╨╤╥╙╘╒╓",
      .chars "╫╪┘┌█▄▌▐▀αßΓπΣσµτΦΘΩδ∞φε∩≡±≥≤⌠⌡÷≈°∙·√\u207f²■\xa0"]⟩,
  ⟨"cp863", ["863", "csibm863", "ibm863"],
    0x80, [.chars "ÇüéâÂà¶çêëèïî‗À§ÉÈÊôËÏûù¤ÔÜ¢£ÙÛƒ¦´óú¨¸³¯Î⌐¬½¼¾«»░▒▓│┤╡╢╖╕╣║╗",
      .chars "╝╜╛┐└┴┬├─┼╞╟╚╔╩╦╠═╬╧╨╤╥╙╘╒╓╫╪┘┌█▄▌▐▀αßΓπΣσµτΦΘΩδ∞φε∩≡±≥≤⌠⌡÷≈",
      .chars "°∙·√\u207f²■\xa0"]⟩,
  ⟨"cp864", ["864", "csibm864", "ibm864"],
    0, [.run 0x0 37, .chars "٪", .run 0x26 90, .chars "°·∙√▒─│┼┤┬├┴┐┌└┘β∞φ±½¼≈«»\ufef7\ufef8",
      .gap 2, .chars "\ufefb\ufefc", .gap 1, .chars "\xa0\xad\ufe82£¤\ufe84", .gap 2,
      .chars "\ufe8e\ufe8f\ufe95\ufe99،\ufe9d\ufea1\ufea5", .run 0x660 10,
      .chars "\ufed1\u061b\ufeb1\ufeb5\ufeb9\u061f¢\ufe80\ufe81\ufe83",
      .chars "\ufe85\ufeca\ufe8b\ufe8d\ufe91\ufe93\ufe97\ufe9b\ufe9f\ufea3",
      .chars "\ufea7\ufea9\ufeab\ufead\ufeaf\ufeb3\ufeb7\ufebb\ufebf\ufec1",
      .chars "\ufec5\ufecb\ufecf¦¬÷×\ufec9\u0640\ufed3\ufed7\ufedb\ufedf",
      .chars "\ufee3\ufee7\ufeeb\ufeed\ufeef\ufef3\ufebd\ufecc\ufece\ufecd",
      .chars "\ufee1\ufe7d\u0651\ufee5\ufee9\ufeec\ufef0\ufef2\ufed0\ufed5",
      .chars "\ufef5\ufef6\ufedd\ufed9\ufef1■", .gap 1]⟩,
  ⟨"cp865", ["865", "csibm865", "ibm865"],
    0x80, [.chars "ÇüéâäàåçêëèïîìÄÅÉæÆôöòûùÿÖÜø£Ø₧ƒáíóúñÑªº¿⌐¬½¼¡«¤░▒▓│┤╡╢╖╕╣║╗",
      .chars "╝╜╛┐└┴┬├─┼╞╟╚╔╩╦╠═╬╧╨╤╥╙╘╒╓╫╪┘┌█▄▌▐▀αßΓπΣσµτΦΘΩδ∞φε∩≡±≥≤⌠⌡÷≈",
      .chars "°∙·√\u207f²■\xa0"]⟩,
  ⟨"cp866", ["866", "csibm866", "ibm866"],
    0x80, [.run 0x410 48, .chars "░▒▓│┤╡╢╖╕╣║╗╝╜╛┐└┴┬├─┼╞╟╚╔╩╦╠═╬╧╨╤╥╙╘╒╓╫╪┘┌█▄▌▐▀",
      .run 0x440 16, .chars "ЁёЄєЇїЎў°∙·√№¤■\xa0"]⟩,
  ⟨"cp869", ["869", "cp_gr", "csibm869", "ibm869"],
    0x80, [.gap 6, .chars "Ά", .gap 1, .chars "·¬¦‘’Έ―ΉΊΪΌ", .gap 2,
      .chars "ΎΫ©Ώ²³ά£έήίϊΐόύΑΒΓΔΕΖΗ½ΘΙ«»░▒▓│┤ΚΛΜΝ╣║╗╝ΞΟ┐└┴┬├─┼ΠΡ╚╔╩╦╠═╬ΣΤ",
      .chars "ΥΦΧΨΩαβγ┘┌█▄δε▀ζηθικλμνξοπρσςτ΄\xad±υφχ§ψ΅°¨ωϋΰώ■\xa0"]⟩,
  ⟨"cp874", [],
    0x80, [.chars "€", .gap 4, .chars "…", .gap 11, .chars "‘’“”•–—", .gap 8, .chars "\xa0",
      .run 0xe01 58, .gap 4, .run 0xe3f 29, .gap 4]⟩,
  ⟨"cp875", [],
    0, [.run 0x0 4, .chars "\x9c\x09\x86\x7f\x97\x8d\x8e", .run 0xb 9,
      .chars "\x9d\x85\x08\x87\x18\x19\x92\x8f", .run 0x1c 4, .run 0x80 5, .chars "\x0a\x17\x1b",
      .run 0x88 5, .chars "\x05\x06\x07\x90\x91\x16", .run 0x93 4, .chars "\x04", .run 0x98 4,
      .chars "\x14\x15\x9e\x1a\x20ΑΒΓΔΕΖΗΘΙ[.<(+!&ΚΛΜΝΞΟΠΡΣ]$*);^-/ΤΥΦΧΨΩΪ",
      .chars "Ϋ|,%_>?¨ΆΈΉ\xa0ΊΌΎΏ\x60:#@'=\x22΅abcdefghiαβγδεζ°jklmnopqrηθ",
      .chars "ικλμ´~stuvwxyzνξοπρσ£άέήϊίόύϋώςτυφχψ\x7bABCDEFGHI\xadωΐΰ‘―",
      .chars "\x7dJKLMNOPQR±½\x1a·’¦\x5c\x1aSTUVWXYZ²§\x1a\x1a«¬0123456789",
      .chars "³©\x1a\x1a»\x9f"]⟩,
  ⟨"hp_roman8", ["cp1051", "ibm1051", "r8", "roman8"],
    0x80, [.run 0x80 33, .chars "ÀÂÈÊËÎÏ´\u02cb\u02c6¨˜ÙÛ₤¯Ýý°ÇçÑñ¡¿¤£¥§ƒ¢âêôûáéóúàèòùäëöüÅîØ",
      .chars "ÆåíøæÄìÖÜÉïßÔÁÃãÐðÍÌÓÒÕõŠšÚŸÿÞþ·µ¶¾—¼½ªº«■»±", .gap 1]⟩,
  ⟨"iso8859_10", ["csisolatin6", "iso_8859_10", "iso_8859_10_1992", "iso_ir_157", "l6", "latin6"],
    0x80, [.run 0x80 33, .chars "ĄĒĢĪĨĶ§ĻĐŠŦŽ\xadŪŊ°ąēģīĩķ·ļđšŧž―ūŋĀÁÂÃÄÅÆĮČÉĘËĖÍÎÏÐŅŌÓÔÕÖŨØŲ",
      .chars "ÚÛÜÝÞßāáâãäåæįčéęëėíîïðņōóôõöũøųúûüýþĸ"]⟩,
  ⟨"iso8859_11", ["iso_8859_11", "iso_8859_11_2001", "thai"],
    0x80, [.run 0x80 33, .run 0xe01 58, .gap 4, .run 0xe3f 29, .gap 4]⟩,
  ⟨"iso8859_13", ["iso_8859_13", "l7", "latin7"],
    0x80, [.run 0x80 33, .chars "”¢£¤„¦§Ø©Ŗ«¬\xad®Æ°±²³“µ¶·ø¹ŗ»¼½¾æĄĮĀĆÄÅĘĒČÉŹĖĢĶĪĻŠŃŅÓŌÕÖ×ŲŁ",
      .chars "ŚŪÜŻŽßąįāćäåęēčéźėģķīļšńņóōõö÷ųłśūüżž’"]⟩,
  ⟨"iso8859_14", ["iso_8859_14", "iso_8859_14_1998", "iso_celtic", "iso_ir_199", "l8", "latin8"],
    0x80, [.run 0x80 33, .chars "Ḃḃ£ĊċḊ§Ẁ©ẂḋỲ\xad®ŸḞḟĠġṀṁ¶ṖẁṗẃṠỳẄẅṡ", .run 0xc0 16,
      .chars "ŴÑÒÓÔÕÖṪØÙÚÛÜÝŶ", .run 0xdf 17, .chars "ŵñòóôõöṫøùúûüýŷÿ"]⟩,
  ⟨"iso8859_15", ["iso_8859_15", "l9", "latin9"],
    0x80, [.run 0x80 36, .chars "€¥Š§š©ª«¬\xad®¯°±²³Žµ¶·ž¹º»ŒœŸ", .run 0xbf 65]⟩,
  ⟨"iso8859_16", ["iso_8859_16", "iso_8859_16_2001", "iso_ir_226", "l10", "latin10"],
    0x80, [.run 0x80 33, .chars "ĄąŁ€„Š§š©Ș«Ź\xadźŻ°±ČłŽ”¶·žčș»ŒœŸżÀÁÂĂÄĆÆÇÈÉÊËÌÍÎÏĐŃÒÓÔŐÖŚŰÙ",
      .chars "ÚÛÜĘȚßàáâăäćæçèéêëìíîïđńòóôőöśűùúûüęțÿ"]⟩,
  ⟨"iso8859_2", ["csisolatin2", "iso_8859_2", "iso_8859_2_1987", "iso_ir_101", "l2", "latin2"],
    0x80, [.run 0x80 33, .chars "Ą˘Ł¤ĽŚ§¨ŠŞŤŹ\xadŽŻ°ą˛ł´ľś\u02c7¸šşťź˝žżŔÁÂĂÄĹĆÇČÉĘËĚÍÎĎĐŃŇÓÔ",
      .chars "ŐÖ×ŘŮÚŰÜÝŢßŕáâăäĺćçčéęëěíîďđńňóôőö÷řůúűüýţ˙"]⟩,
  ⟨"iso8859_3", ["csisolatin3", "iso_8859_3", "iso_8859_3_1988", "iso_ir_109", "l3", "latin3"],
    0x80, [.run 0x80 33, .chars "Ħ˘£¤", .gap 1, .chars "Ĥ§¨İŞĞĴ\xad", .gap 1,
      .chars "Ż°ħ²³´µĥ·¸ışğĵ½", .gap 1, .chars "żÀÁÂ", .gap 1, .chars "ÄĊĈÇÈÉÊËÌÍÎÏ", .gap 1,
      .chars "ÑÒÓÔĠÖ×ĜÙÚÛÜŬŜßàáâ", .gap 1, .chars "äċĉçèéêëìíîï", .gap 1,
      .chars "ñòóôġö÷ĝùúûüŭŝ˙"]⟩,
  ⟨"iso8859_4", ["csisolatin4", "iso_8859_4", "iso_8859_4_1988", "iso_ir_110", "l4", "latin4"],
    0x80, [.run 0x80 33, .chars "ĄĸŖ¤ĨĻ§¨ŠĒĢŦ\xadŽ¯°ą˛ŗ´ĩļ\u02c7¸šēģŧŊžŋĀÁÂÃÄÅÆĮČÉĘËĖÍÎĪĐŅŌĶÔ",
      .chars "ÕÖ×ØŲÚÛÜŨŪßāáâãäåæįčéęëėíîīđņōķôõö÷øųúûüũū˙"]⟩,
  ⟨"iso8859_5", ["csisolatincyrillic", "cyrillic", "iso_8859_5", "iso_8859_5_1988", "iso_ir_144"],
    0x80, [.run 0x80 33, .chars "ЁЂЃЄЅІЇЈЉЊЋЌ\xad", .run 0x40e 66, .chars "№ёђѓєѕіїјљњћќ§ўџ"]⟩,
  ⟨"iso8859_6", ["arabic", "asmo_708", "csisolatinarabic", "ecma_114", "iso_8859_6",
      "iso_8859_6_1987", "iso_ir_127"],
    0x80, [.run 0x80 33, .gap 3, .chars "¤", .gap 7, .chars "،\xad", .gap 13, .chars "\u061b",
      .gap 3, .chars "\u061f", .gap 1, .run 0x621 26, .gap 5, .run 0x640 19, .gap 13]⟩,
  ⟨"iso8859_7", ["csisolatingreek", "ecma_118", "elot_928", "greek", "greek8", "iso_8859_7",
      "iso_8859_7_1987", "iso_ir_126"],
    0x80, [.run 0x80 33, .chars "‘’£€₯¦§¨©\u037a«¬\xad", .gap 1, .chars "―°±²³΄΅Ά·ΈΉΊ»Ό½",
      .run 0x38e 20, .gap 1, .run 0x3a3 44, .gap 1]⟩,
  ⟨"iso8859_8", ["csisolatinhebrew", "hebrew", "iso_8859_8", "iso_8859_8_1988", "iso_ir_138"],
    0x80, [.run 0x80 33, .gap 1, .chars "¢£¤¥¦§¨©×", .run 0xab 15, .chars "÷»¼½¾", .gap 32,
      .chars "‗", .run 0x5d0 27, .gap 2, .chars "\u200e\u200f", .gap 1]⟩,
  ⟨"iso8859_9", ["csisolatin5", "iso_8859_9", "iso_8859_9_1989", "iso_ir_148", "l5", "latin5"],
    0x80, [.run 0x80 80, .chars "ĞÑÒÓÔÕÖ×ØÙÚÛÜİŞ", .run 0xdf 17, .chars "ğñòóôõö÷øùúûüışÿ"]⟩,
  ⟨"koi8_r", ["cskoi8r"],
    0x80, [.chars "─│┌┐└┘├┤┬┴┼▀▄█▌▐░▒▓⌠■∙√≈≤≥\xa0⌡°²·÷═║╒ё╓╔╕╖╗╘╙╚╛╜╝╞╟╠╡Ё╢╣╤╥╦",
      .chars "╧╨╩╪╫╬©юабцдефгхийклмнопярстужвьызшэщчъЮАБЦДЕФГХИЙКЛМНОПЯРСТ", .chars "УЖВЬЫЗШЭЩЧЪ"]⟩,
  ⟨"koi8_t", [],
    0x80, [.chars "қғ‚Ғ„…†‡", .gap 1, .chars "‰ҳ‹ҲҷҶ", .gap 1, .chars "Қ‘’“”•–—", .gap 1,
      .chars "™", .gap 1, .chars "›", .gap 5, .chars "ӯӮё¤ӣ¦§", .gap 3, .chars "«¬\xad®", .gap 1,
      .chars "°±²Ё", .gap 1, .chars "Ӣ¶·", .gap 1, .chars "№", .gap 1, .chars "»", .gap 3,
      .chars "©юабцдефгхийклмнопярстужвьызшэщчъЮАБЦДЕФГХИЙКЛМНОПЯРСТУЖВЬЫЗ", .chars "ШЭЩЧЪ"]⟩,
  ⟨"koi8_u", [],
    0x80, [.chars "─│┌┐└┘├┤┬┴┼▀▄█▌▐░▒▓⌠■∙√≈≤≥\xa0⌡°²·÷═║╒ёє╔ії╗╘╙╚╛ґ╝╞╟╠╡ЁЄ╣ІЇ╦",
      .chars "╧╨╩╪Ґ╬©юабцдефгхийклмнопярстужвьызшэщчъЮАБЦДЕФГХИЙКЛМНОПЯРСТ", .chars "УЖВЬЫЗШЭЩЧЪ"]⟩,
  ⟨"kz1048", ["kz_1048", "rk1048", "strk1048_2002"],
    0x80, [.chars "ЂЃ‚ѓ„…†‡€‰Љ‹ЊҚҺЏђ‘’“”•–—", .gap 1,
      .chars "™љ›њқһџ\xa0ҰұӘ¤Ө¦§Ё©Ғ«¬\xad®Ү°±Ііөµ¶·ё№ғ»әҢңү", .run 0x410 64]⟩,
  ⟨"latin_1", ["8859", "cp819", "csisolatin1", "ibm819", "iso8859", "iso8859_1", "iso_8859_1",
      "iso_8859_1_1987", "iso_ir_100", "l1", "latin", "latin1"],
    0x80, [.run 0x80 128]⟩,
  ⟨"mac_arabic", [],
    0x80, [.chars "Ä\xa0ÇÉÑÖÜáàâä\u06ba«çéèêëí…îïñó»ôö÷úùûü\x20!\x22#$٪&'()*+،-", .chars "./",
      .run 0x660 10, .chars ":\u061b<=>\u061f❊", .run 0x621 26, .chars "[\x5c]^_", .run 0x640 19,
      .chars "\u067e\u0679\u0686\u06d5\u06a4\u06af\u0688\u0691\x7b|\x7d", .chars "\u0698\u06d2"]⟩,
  ⟨"mac_croatian", [],
    0x80, [.chars "ÄÅÇÉÑÖÜáàâäãåçéèêëíìîïñóòôöõúùûü†°¢£§•¶ß®Š™´¨≠ŽØ∞±≤≥∆µ∂∑∏š∫ª",
      .chars "ºΩžø¿¡¬√ƒ≈Ć«Č…\xa0ÀÃÕŒœĐ—“”‘’÷◊\uf8ff©⁄€‹›Æ»–·‚„‰ÂćÁčÈÍÎÏÌÓÔ",
      .chars "đÒÚÛÙı\u02c6˜¯πË˚¸Êæ\u02c7"]⟩,
  ⟨"mac_cyrillic", ["maccyrillic"],
    0x80, [.run 0x410 32, .chars "†°Ґ£§•¶І®©™Ђђ≠Ѓѓ∞±≤≥іµґЈЄєЇїЉљЊњјЅ¬√ƒ≈∆«»…\xa0ЋћЌќѕ–—“”‘’÷„Ў",
      .chars "ўЏџ№Ёёя", .run 0x430 31, .chars "€"]⟩,
  ⟨"mac_farsi", [],
    0x80, [.chars "Ä\xa0ÇÉÑÖÜáàâä\u06ba«çéèêëí…îïñó»ôö÷úùûü\x20!\x22#$٪&'()*+،-",
      .chars "./۰۱۲۳۴۵۶۷۸۹:\u061b<=>\u061f❊", .run 0x621 26, .chars "[\x5c]^_", .run 0x640 19,
      .chars "\u067e\u0679\u0686\u06d5\u06a4\u06af\u0688\u0691\x7b|\x7d", .chars "\u0698\u06d2"]⟩,
  ⟨"mac_greek", ["macgreek"],
    0x80, [.chars "Ä¹²É³ÖÜ΅àâä΄¨çéèêë£™îï•½‰ôö¦€ùûü†ΓΔΘΛΞΠß®©ΣΪ§≠°·Α±≤≥¥ΒΕΖΗΙΚΜ",
      .chars "ΦΫΨΩάΝ¬ΟΡ≈Τ«»…\xa0ΥΧΆΈœ–―“”‘’÷ΉΊΌΎέήίόΏύαβψδεφγηιξκλμνοπώρστ",
      .chars "θωςχυζϊϋΐΰ\xad"]⟩,
  ⟨"mac_iceland", ["maciceland"],
    0x80, [.chars "ÄÅÇÉÑÖÜáàâäãåçéèêëíìîïñóòôöõúùûüÝ°¢£§•¶ß®©™´¨≠ÆØ∞±≤≥¥µ∂∑∏π∫ª",
      .chars "ºΩæø¿¡¬√ƒ≈∆«»…\xa0ÀÃÕŒœ–—“”‘’÷◊ÿŸ⁄€ÐðÞþý·‚„‰ÂÊÁËÈÍÎÏÌÓÔ",
      .chars "\uf8ffÒÚÛÙı\u02c6˜¯˘˙˚¸˝˛\u02c7"]⟩,
  ⟨"mac_latin2", ["mac_centeuro", "maccentraleurope", "maclatin2"],
    0x80, [.chars "ÄĀāÉĄÖÜáąČäčĆćéŹźĎíďĒēĖóėôöõúĚěü†°Ę£§•¶ß®©™ę¨≠ģĮįĪ≤≥īĶ∂∑łĻļĽ",
      .chars "ľĹĺŅņŃ¬√ńŇ∆«»…\xa0ňŐÕőŌ–—“”‘’÷◊ōŔŕŘ‹›řŖŗŠ‚„šŚśÁŤťÍŽžŪÓÔūŮÚůŰ",
      .chars "űŲųÝýķŻŁżĢ\u02c7"]⟩,
  ⟨"mac_roman", ["macintosh", "macroman"],
    0x80, [.chars "ÄÅÇÉÑÖÜáàâäãåçéèêëíìîïñóòôöõúùûü†°¢£§•¶ß®©™´¨≠ÆØ∞±≤≥¥µ∂∑∏π∫ª",
      .chars "ºΩæø¿¡¬√ƒ≈∆«»…\xa0ÀÃÕŒœ–—“”‘’÷◊ÿŸ⁄€‹›ﬁﬂ‡·‚„‰ÂÊÁËÈÍÎÏÌÓÔ",
      .chars "\uf8ffÒÚÛÙı\u02c6˜¯˘˙˚¸˝˛\u02c7"]⟩,
  ⟨"mac_romanian", [],
    0x80, [.chars "ÄÅÇÉÑÖÜáàâäãåçéèêëíìîïñóòôöõúùûü†°¢£§•¶ß®©™´¨≠ĂȘ∞±≤≥¥µ∂∑∏π∫ª",
      .chars "ºΩăș¿¡¬√ƒ≈∆«»…\xa0ÀÃÕŒœ–—“”‘’÷◊ÿŸ⁄€‹›Țț‡·‚„‰ÂÊÁËÈÍÎÏÌÓÔ",
      .chars "\uf8ffÒÚÛÙı\u02c6˜¯˘˙˚¸˝˛\u02c7"]⟩,
  ⟨"mac_turkish", ["macturkish"],
    0x80, [.chars "ÄÅÇÉÑÖÜáàâäãåçéèêëíìîïñóòôöõúùûü†°¢£§•¶ß®©™´¨≠ÆØ∞±≤≥¥µ∂∑∏π∫ª",
      .chars "ºΩæø¿¡¬√ƒ≈∆«»…\xa0ÀÃÕŒœ–—“”‘’÷◊ÿŸĞğİıŞş‡·‚„‰ÂÊÁËÈÍÎÏÌÓÔ",
      .chars "\uf8ffÒÚÛÙ\uf8a0\u02c6˜¯˘˙˚¸˝˛\u02c7"]⟩,
  ⟨"palmos", [],
    0x80, [.chars "€\x81‚ƒ„…†‡\u02c6‰Š‹Œ♦♣♥♠‘’“”•–—˜™š\x9bœ\x9d\x9eŸ", .run 0xa0 96]⟩,
  ⟨"ptcp154", ["cp154", "csptcp154", "cyrillic_asian", "pt154"],
    0x80, [.chars "ҖҒӮғ„…ҶҮҲүҠӢҢҚҺҸҗ‘’“”•–—ҳҷҡӣңқһҹ\xa0ЎўЈӨҘҰ§Ё©Ә«¬ӯ®Ҝ°ұІіҙө¶·ё",
      .chars "№ә»јҪҫҝ", .run 0x410 64]⟩,
  ⟨"tis_620", ["iso_ir_166", "tis620", "tis_620_0", "tis_620_2529_0", "tis_620_2529_1"],
    0x80, [.run 0x80 32, .gap 1, .run 0xe01 58, .gap 4, .run 0xe3f 29, .gap 4]⟩]

end ApiKeys.CodePage
