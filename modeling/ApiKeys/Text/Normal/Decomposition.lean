/-!
# Decompositions

What the characters of Unicode 3.2 are made of: letters and the marks on them, and the plain forms
of characters that differ in form only. The syllables of Korean are left out.
-/

namespace ApiKeys.Normal

/-- The characters that are made of one other character, those after the given one too: the string
has theirs in order. -/
def singleForms : List (Nat × String) := [
  (0xa0, " "), (0xaa, "a"), (0xb2, "23"), (0xb5, "μ"), (0xb9, "1o"), (0x17f, "s"),
  (0x2b0, "hɦjrɹɻʁwy"), (0x2e0, "ɣlsxʕ"), (0x340, "\u0300\u0301"), (0x343, "\u0313"),
  (0x374, "\u02b9"), (0x37e, ";"), (0x387, "·"), (0x3d0, "βθΥ"), (0x3d5, "φπ"), (0x3f0, "κρς"),
  (0x3f4, "Θε"), (0xf0c, "་"), (0x1fbe, "ι"), (0x1fef, "\x60"), (0x2000, "           "),
  (0x2011, "‐"), (0x2024, "."), (0x202f, " "), (0x205f, " "), (0x2070, "0i"),
  (0x2074, "456789+−=()n0123456789+−=()"), (0x2102, "C"), (0x2107, "Ɛ"), (0x210a, "gHHHhħIILl"),
  (0x2115, "N"), (0x2119, "PQRRR"), (0x2124, "Z"), (0x2126, "Ω"), (0x2128, "Z"), (0x212a, "K"),
  (0x212c, "BC"), (0x212f, "eEF"), (0x2133, "Mo\u05d0\u05d1\u05d2\u05d3i"), (0x213d, "γΓΠ∑"),
  (0x2145, "Ddeij"), (0x2160, "I"), (0x2164, "V"), (0x2169, "X"), (0x216c, "LCDMi"), (0x2174, "v"),
  (0x2179, "x"), (0x217c, "lcdm"), (0x2329, "〈〉"), (0x2460, "123456789"),
  (0x24b6, "ABCDEFGHIJKLMNOPQRSTUVWXYZabcdefghijklmnopqrstuvwxyz0"), (0x2e9f, "母"), (0x2ef3, "龟"),
  (0x2f00, "一丨丶丿乙亅二亠人儿入八冂冖冫几凵刀力勹匕匚匸十卜卩厂厶又口囗土士夂夊夕大女子宀寸"),
  (0x2f29, "小尢尸屮山巛工己巾干幺广廴廾弋弓彐彡彳心戈戶手支攴文斗斤方无日曰月木欠止歹殳毋比毛"),
  (0x2f52, "氏气水火爪父爻爿片牙牛犬玄玉瓜瓦甘生用田疋疒癶白皮皿目矛矢石示禸禾穴立竹米糸缶网羊"),
  (0x2f7b, "羽老而耒耳聿肉臣自至臼舌舛舟艮色艸虍虫血行衣襾見角言谷豆豕豸貝赤走足身車辛辰辵邑酉"),
  (0x2fa4, "釆里金長門阜隶隹雨靑非面革韋韭音頁風飛食首香馬骨高髟鬥鬯鬲鬼魚鳥鹵鹿麥麻黃黍黑黹黽"),
  (0x2fcd, "鼎鼓鼠鼻齊齒龍龜龠"), (0x3000, " "), (0x3036, "〒"), (0x3038, "十卄卅"),
  (0x3131, "ᄀᄁᆪᄂᆬᆭᄃᄄᄅᆰᆱᆲᆳᆴᆵᄚᄆᄇᄈᄡᄉᄊᄋᄌᄍᄎᄏᄐᄑ하ᅢᅣᅤᅥᅦᅧᅨᅩᅪᅫᅬᅭᅮᅯᅰᅱᅲᅳᅴᅵᅠᄔᄕᇇᇈᇌᇎᇓ"),
  (0x316c, "ᇗᇙᄜᇝᇟᄝᄞᄠᄢᄣᄧᄩᄫᄬᄭᄮᄯᄲᄶᅀᅇᅌᇱᇲᅗᅘᅙᆄᆅᆈᆑᆒᆔᆞᆡ"),
  (0x3192, "一二三四上中下甲乙丙丁天地人"), (0x3260, "ᄀᄂᄃᄅᄆᄇᄉᄋᄌᄎᄏᄐᄑᄒ"),
  (0x3280, "一二三四五六七八九十月火水木金土日株有社名特財祝労秘男女適優印注項休写正上中下左右"),
  (0x32a9, "医宗学監企資協夜"),
  (0x32d0, "アイウエオカキクケコサシスセソタチツテトナニヌネノハヒフヘホマミムメモヤユヨラリル"),
  (0x32f9, "レロワヰヱヲ"),
  (0xf900, "豈更車賈滑串句龜龜契金喇奈懶癩羅蘿螺裸邏樂洛烙珞落酪駱亂卵欄爛蘭鸞嵐濫藍襤拉臘蠟廊"),
  (0xf929, "朗浪狼郎來冷勞擄櫓爐盧老蘆虜路露魯鷺碌祿綠菉錄鹿論壟弄籠聾牢磊賂雷壘屢樓淚漏累縷陋"),
  (0xf952, "勒肋凜凌稜綾菱陵讀拏樂諾丹寧怒率異北磻便復不泌數索參塞省葉說殺辰沈拾若掠略亮兩凉梁"),
  (0xf97b, "糧良諒量勵呂女廬旅濾礪閭驪麗黎力曆歷轢年憐戀撚漣煉璉秊練聯輦蓮連鍊列劣咽烈裂說廉念"),
  (0xf9a4, "捻殮簾獵令囹寧嶺怜玲瑩羚聆鈴零靈領例禮醴隸惡了僚寮尿料樂燎療蓼遼龍暈阮劉杻柳流溜琉"),
  (0xf9cd, "留硫紐類六戮陸倫崙淪輪律慄栗率隆利吏履易李梨泥理痢罹裏裡里離匿溺吝燐璘藺隣鱗麟林淋"),
  (0xf9f6, "臨立笠粒狀炙識什茶刺切度拓糖宅洞暴輻行降見廓兀嗀"), (0xfa10, "塚"), (0xfa12, "晴"),
  (0xfa15, "凞猪益礼神祥福靖精羽"), (0xfa20, "蘒"), (0xfa22, "諸"), (0xfa25, "逸都"),
  (0xfa2a, "飯飼館鶴"),
  (0xfa30, "侮僧免勉勤卑喝嘆器塀墨層屮悔慨憎懲敏既暑梅海渚漢煮爫琢碑社祉祈祐祖祝禍禎穀突節練縉"),
  (0xfa59, "繁署者臭艹艹著褐視謁謹賓贈辶逸難響頻"),
  (0xfb20, "\u05e2\u05d0\u05d3\u05d4\u05db\u05dc\u05dd\u05e8\u05ea+"),
  (0xfb50, "\u0671\u0671\u067b\u067b\u067b\u067b\u067e\u067e\u067e\u067e\u0680\u0680\u0680"),
  (0xfb5d, "\u0680\u067a\u067a\u067a\u067a\u067f\u067f\u067f\u067f\u0679\u0679\u0679\u0679"),
  (0xfb6a, "\u06a4\u06a4\u06a4\u06a4\u06a6\u06a6\u06a6\u06a6\u0684\u0684\u0684\u0684\u0683"),
  (0xfb77, "\u0683\u0683\u0683\u0686\u0686\u0686\u0686\u0687\u0687\u0687\u0687\u068d\u068d"),
  (0xfb84, "\u068c\u068c\u068e\u068e\u0688\u0688\u0698\u0698\u0691\u0691\u06a9\u06a9\u06a9"),
  (0xfb91, "\u06a9\u06af\u06af\u06af\u06af\u06b3\u06b3\u06b3\u06b3\u06b1\u06b1\u06b1\u06b1"),
  (0xfb9e, "\u06ba\u06ba\u06bb\u06bb\u06bb\u06bb"),
  (0xfba6, "\u06c1\u06c1\u06c1\u06c1\u06be\u06be\u06be\u06be\u06d2\u06d2"),
  (0xfbd3, "\u06ad\u06ad\u06ad\u06ad\u06c7\u06c7\u06c6\u06c6\u06c8\u06c8"),
  (0xfbde, "\u06cb\u06cb\u06c5\u06c5\u06c9\u06c9\u06d0\u06d0\u06d0\u06d0\u0649\u0649"),
  (0xfbfc, "\u06cc\u06cc\u06cc\u06cc"), (0xfe31, "—–__()\x7b\x7d〔〕【】《》〈〉「」『』"),
  (0xfe4d, "___,、."), (0xfe54, ";:?!—()\x7b\x7d〔〕#&*+-<>="), (0xfe68, "\\$%@"),
  (0xfe80, "\u0621"),
  (0xfe8d, "\u0627\u0627\u0628\u0628\u0628\u0628\u0629\u0629\u062a\u062a\u062a\u062a\u062b"),
  (0xfe9a, "\u062b\u062b\u062b\u062c\u062c\u062c\u062c\u062d\u062d\u062d\u062d\u062e\u062e"),
  (0xfea7, "\u062e\u062e\u062f\u062f\u0630\u0630\u0631\u0631\u0632\u0632\u0633\u0633\u0633"),
  (0xfeb4, "\u0633\u0634\u0634\u0634\u0634\u0635\u0635\u0635\u0635\u0636\u0636\u0636\u0636"),
  (0xfec1, "\u0637\u0637\u0637\u0637\u0638\u0638\u0638\u0638\u0639\u0639\u0639\u0639\u063a"),
  (0xfece, "\u063a\u063a\u063a\u0641\u0641\u0641\u0641\u0642\u0642\u0642\u0642\u0643\u0643"),
  (0xfedb, "\u0643\u0643\u0644\u0644\u0644\u0644\u0645\u0645\u0645\u0645\u0646\u0646\u0646"),
  (0xfee8, "\u0646\u0647\u0647\u0647\u0647\u0648\u0648\u0649\u0649\u064a\u064a\u064a\u064a"),
  (0xff01, "!\"#$%&'()*+,-./0123456789:;<=>?@ABCDEFGHIJKLMNOPQRSTUVWXYZ[\\]\u005e_\x60abcdefgh"),
  (0xff49, "ijklmnopqrstuvwxyz\x7b|\x7d~⦅⦆。「」、・ヲァィゥェォャュョッーアイウエオカキクケコ"),
  (0xff7b, "サシスセソタチツテトナニヌネノハヒフヘホマミムメモヤユヨラリルレロワン\u3099\u309a"),
  (0xffa0, "ᅠᄀᄁᆪᄂᆬᆭᄃᄄᄅᆰᆱᆲᆳᆴᆵᄚᄆᄇᄈᄡᄉᄊᄋᄌᄍᄎᄏᄐᄑᄒ"), (0xffc2, "ᅡᅢᅣᅤᅥᅦ"),
  (0xffca, "ᅧᅨᅩᅪᅫᅬ"), (0xffd2, "ᅭᅮᅯᅰᅱᅲ"), (0xffda, "ᅳᅴᅵ"), (0xffe0, "¢£¬"), (0xffe4, "¦¥₩"),
  (0xffe8, "│←↑→↓■○"),
  (0x1d400, "ABCDEFGHIJKLMNOPQRSTUVWXYZabcdefghijklmnopqrstuvwxyzABCDEFGHIJKLMNOPQRSTUVWXYZabcd"),
  (0x1d452, "efg"),
  (0x1d456, "ijklmnopqrstuvwxyzABCDEFGHIJKLMNOPQRSTUVWXYZabcdefghijklmnopqrstuvwxyzA"),
  (0x1d49e, "CD"), (0x1d4a2, "G"), (0x1d4a5, "JK"), (0x1d4a9, "NOPQ"), (0x1d4ae, "STUVWXYZabcd"),
  (0x1d4bb, "f"), (0x1d4bd, "hijk"), (0x1d4c2, "mn"),
  (0x1d4c5, "pqrstuvwxyzABCDEFGHIJKLMNOPQRSTUVWXYZabcdefghijklmnopqrstuvwxyzAB"), (0x1d507, "DEFG"),
  (0x1d50d, "JKLMNOPQ"), (0x1d516, "STUVWXY"), (0x1d51e, "abcdefghijklmnopqrstuvwxyzAB"),
  (0x1d53b, "DEFG"), (0x1d540, "IJKLM"), (0x1d546, "O"), (0x1d54a, "STUVWXY"),
  (0x1d552, "abcdefghijklmnopqrstuvwxyzABCDEFGHIJKLMNOPQRSTUVWXYZabcdefghijklmnopqrstuvwxyzABCD"),
  (0x1d5a4, "EFGHIJKLMNOPQRSTUVWXYZabcdefghijklmnopqrstuvwxyzABCDEFGHIJKLMNOPQRSTUVWXYZabcdefgh"),
  (0x1d5f6, "ijklmnopqrstuvwxyzABCDEFGHIJKLMNOPQRSTUVWXYZabcdefghijklmnopqrstuvwxyzABCDEFGHIJKL"),
  (0x1d648, "MNOPQRSTUVWXYZabcdefghijklmnopqrstuvwxyzABCDEFGHIJKLMNOPQRSTUVWXYZabcdefghijklmnop"),
  (0x1d69a, "qrstuvwxyz"),
  (0x1d6a8, "ΑΒΓΔΕΖΗΘΙΚΛΜΝΞΟΠΡΘΣΤΥΦΧΨΩ∇αβγδεζηθικλμνξοπρςστυφχψω∂εθκφρπΑΒΓΔΕΖΗΘΙΚΛΜΝΞΟΠΡΘΣΤΥΦΧΨ"),
  (0x1d6fa, "Ω∇αβγδεζηθικλμνξοπρςστυφχψω∂εθκφρπΑΒΓΔΕΖΗΘΙΚΛΜΝΞΟΠΡΘΣΤΥΦΧΨΩ∇αβγδεζηθικλμνξοπρςστυφ"),
  (0x1d74c, "χψω∂εθκφρπΑΒΓΔΕΖΗΘΙΚΛΜΝΞΟΠΡΘΣΤΥΦΧΨΩ∇αβγδεζηθικλμνξοπρςστυφχψω∂εθκφρπΑΒΓΔΕΖΗΘΙΚΛΜΝΞ"),
  (0x1d79e, "ΟΠΡΘΣΤΥΦΧΨΩ∇αβγδεζηθικλμνξοπρςστυφχψω∂εθκφρπ"),
  (0x1d7ce, "01234567890123456789012345678901234567890123456789"),
  (0x2f800, "丽丸乁𠄢你侮侻倂偺備僧像㒞𠘺免兔兤具𠔜㒹內再𠕋冗冤仌冬况𩇟凵刃㓟刻剆割剷㔕勇勉勤勺"),
  (0x2f829, "包匆北卉卑博即卽卿卿卿𠨬灰及叟𠭣叫叱吆咞吸呈周咢哶唐啓啣善善喙喫喳嗂圖嘆圗噑噴切壮"),
  (0x2f852, "城埴堍型堲報墬𡓤売壷夆多夢奢𡚨𡛪姬娛娧姘婦㛮𡍪嬈嬾嬾𡧈寃寘寧寳𡬘寿将弳尢㞁屠屮峀岍"),
  (0x2f87b, "𡷤嵃𡷦嵮嵫嵼巡巢㠯巽帨帽幩㡢𢆃㡼庰庳庶廊𪎒廾𢌱𢌱舁弢弢㣇𣊸𦇚形彫㣣徚忍志忹悁㤺㤜悔"),
  (0x2f8a4, "𢛔惇慈慌慎慌慺憎憲憤憯懞懲懶成戛扝抱拔捐𢬌挽拼捨掃揤𢯱搢揅掩㨮摩摾撝摷㩬敏敬𣀊旣書"),
  (0x2f8cd, "晉㬙暑㬈㫤冒冕最暜肭䏙朗望朡杞杓𣏃㭉柺枅桒梅𣑭梎栟椔㮝楂榣槪檨𣚣櫛㰘次𣢧歔㱎歲殟殺"),
  (0x2f8f6, "殻𣪍𡴋𣫺汎𣲼沿泍汧洖派海流浩浸涅𣴞洴港湮㴳滋滇𣻑淹潮𣽞𣾎濆瀹瀞瀛㶖灊災灷炭𠔥煅𤉣熜"),
  (0x2f91f, "䎫爨爵牐𤘈犀犕𤜵𤠔獺王㺬玥㺸㺸瑇瑜瑱璅瓊㼛甤𤰶甾𤲒異𢆟瘐𤾡𤾸𥁄㿼䀈直𥃳𥃲𥄙𥄳眞真真"),
  (0x2f948, "睊䀹瞋䁆䂖𥐝硎碌磌䃣𥘦祖𥚚𥛅福秫䄯穀穊穏𥥼𥪧𥪧窮䈂𥮫篆築䈧𥲀糒䊠糨糣紀𥾆絣䌁緇縂繅"),
  (0x2f971, "䌴𦈨𦉇䍙𦋙罺𦌾羕翺者𦓚𦔣聠𦖨聰𣍟䏕育脃䐋脾媵𦞧𦞵𣎓𣎜舁舄辞䑫芑芋芝劳花芳芽苦𦬼若茝"),
  (0x2f99a, "荣莭茣莽菧著荓菊菌菜𦰶𦵫𦳕䔫蓱蓳蔖𧏊蕤𦼬䕝䕡𦾱𧃒䕫虐虜虧虩蚩蚈蜎蛢蝹蜨蝫螆䵗蟡蠁䗹"),
  (0x2f9c3, "衠衣𧙧裗裞䘵裺㒻𧢮𧥦䚾䛇誠諭變豕𧲨貫賁贛起𧼯𠠄跋趼跰𠣞軔輸𨗒𨗭邔郱鄑𨜮鄛鈸鋗鋘鉼鏹"),
  (0x2f9ec, "鐕𨯺開䦕閷𨵷䧦雃嶲霣𩅅𩈚䩮䩶韠𩐊䪲𩒖頋頋頩𩖶飢䬳餩馧駂駾䯎𩬰鬒鱀鳽䳎䳭鵧𪃎䳸𪄅𪈎𪊑"),
  (0x2fa15, "麻䵖黹黾鼅鼏鼖鼻𪘀")]

/-- The characters that are made of several others, those after the given one too. -/
def severalForms : List (Nat × List String) := [
  (0xa8, [" \u0308"]), (0xaf, [" \u0304"]), (0xb4, [" \u0301"]), (0xb8, [" \u0327"]),
  (0xbc, ["1⁄4", "1⁄2", "3⁄4"]),
  (0xc0, ["A\u0300", "A\u0301", "A\u0302", "A\u0303", "A\u0308", "A\u030a"]),
  (0xc7, ["C\u0327", "E\u0300", "E\u0301", "E\u0302", "E\u0308", "I\u0300", "I\u0301"]),
  (0xce, ["I\u0302", "I\u0308"]),
  (0xd1, ["N\u0303", "O\u0300", "O\u0301", "O\u0302", "O\u0303", "O\u0308"]),
  (0xd9, ["U\u0300", "U\u0301", "U\u0302", "U\u0308", "Y\u0301"]),
  (0xe0, ["a\u0300", "a\u0301", "a\u0302", "a\u0303", "a\u0308", "a\u030a"]),
  (0xe7, ["c\u0327", "e\u0300", "e\u0301", "e\u0302", "e\u0308", "i\u0300", "i\u0301"]),
  (0xee, ["i\u0302", "i\u0308"]),
  (0xf1, ["n\u0303", "o\u0300", "o\u0301", "o\u0302", "o\u0303", "o\u0308"]),
  (0xf9, ["u\u0300", "u\u0301", "u\u0302", "u\u0308", "y\u0301"]),
  (0xff, ["y\u0308", "A\u0304", "a\u0304", "A\u0306", "a\u0306", "A\u0328", "a\u0328"]),
  (0x106, ["C\u0301", "c\u0301", "C\u0302", "c\u0302", "C\u0307", "c\u0307", "C\u030c"]),
  (0x10d, ["c\u030c", "D\u030c", "d\u030c"]),
  (0x112, ["E\u0304", "e\u0304", "E\u0306", "e\u0306", "E\u0307", "e\u0307", "E\u0328"]),
  (0x119, ["e\u0328", "E\u030c", "e\u030c", "G\u0302", "g\u0302", "G\u0306", "g\u0306"]),
  (0x120, ["G\u0307", "g\u0307", "G\u0327", "g\u0327", "H\u0302", "h\u0302"]),
  (0x128, ["I\u0303", "i\u0303", "I\u0304", "i\u0304", "I\u0306", "i\u0306", "I\u0328"]),
  (0x12f, ["i\u0328", "I\u0307"]),
  (0x132, ["IJ", "ij", "J\u0302", "j\u0302", "K\u0327", "k\u0327"]),
  (0x139, ["L\u0301", "l\u0301", "L\u0327", "l\u0327", "L\u030c", "l\u030c", "L·", "l·"]),
  (0x143, ["N\u0301", "n\u0301", "N\u0327", "n\u0327", "N\u030c", "n\u030c", "\u02bcn"]),
  (0x14c, ["O\u0304", "o\u0304", "O\u0306", "o\u0306", "O\u030b", "o\u030b"]),
  (0x154, ["R\u0301", "r\u0301", "R\u0327", "r\u0327", "R\u030c", "r\u030c", "S\u0301"]),
  (0x15b, ["s\u0301", "S\u0302", "s\u0302", "S\u0327", "s\u0327", "S\u030c", "s\u030c"]),
  (0x162, ["T\u0327", "t\u0327", "T\u030c", "t\u030c"]),
  (0x168, ["U\u0303", "u\u0303", "U\u0304", "u\u0304", "U\u0306", "u\u0306", "U\u030a"]),
  (0x16f, ["u\u030a", "U\u030b", "u\u030b", "U\u0328", "u\u0328", "W\u0302", "w\u0302"]),
  (0x176, ["Y\u0302", "y\u0302", "Y\u0308", "Z\u0301", "z\u0301", "Z\u0307", "z\u0307"]),
  (0x17d, ["Z\u030c", "z\u030c"]), (0x1a0, ["O\u031b", "o\u031b"]), (0x1af, ["U\u031b", "u\u031b"]),
  (0x1c4, ["DZ\u030c", "Dz\u030c", "dz\u030c", "LJ", "Lj", "lj", "NJ", "Nj", "nj"]),
  (0x1cd, ["A\u030c", "a\u030c", "I\u030c", "i\u030c", "O\u030c", "o\u030c", "U\u030c"]),
  (0x1d4, ["u\u030c", "U\u0308\u0304", "u\u0308\u0304", "U\u0308\u0301", "u\u0308\u0301"]),
  (0x1d9, ["U\u0308\u030c", "u\u0308\u030c", "U\u0308\u0300", "u\u0308\u0300"]),
  (0x1de, ["A\u0308\u0304", "a\u0308\u0304", "A\u0307\u0304", "a\u0307\u0304", "Æ\u0304"]),
  (0x1e3, ["æ\u0304"]), (0x1e6, ["G\u030c", "g\u030c", "K\u030c", "k\u030c", "O\u0328", "o\u0328"]),
  (0x1ec, ["O\u0328\u0304", "o\u0328\u0304", "Ʒ\u030c", "ʒ\u030c", "j\u030c", "DZ", "Dz"]),
  (0x1f3, ["dz", "G\u0301", "g\u0301"]),
  (0x1f8, ["N\u0300", "n\u0300", "A\u030a\u0301", "a\u030a\u0301", "Æ\u0301", "æ\u0301"]),
  (0x1fe, ["Ø\u0301", "ø\u0301", "A\u030f", "a\u030f", "A\u0311", "a\u0311", "E\u030f"]),
  (0x205, ["e\u030f", "E\u0311", "e\u0311", "I\u030f", "i\u030f", "I\u0311", "i\u0311"]),
  (0x20c, ["O\u030f", "o\u030f", "O\u0311", "o\u0311", "R\u030f", "r\u030f", "R\u0311"]),
  (0x213, ["r\u0311", "U\u030f", "u\u030f", "U\u0311", "u\u0311", "S\u0326", "s\u0326"]),
  (0x21a, ["T\u0326", "t\u0326"]), (0x21e, ["H\u030c", "h\u030c"]),
  (0x226, ["A\u0307", "a\u0307", "E\u0327", "e\u0327", "O\u0308\u0304", "o\u0308\u0304"]),
  (0x22c, ["O\u0303\u0304", "o\u0303\u0304", "O\u0307", "o\u0307", "O\u0307\u0304"]),
  (0x231, ["o\u0307\u0304", "Y\u0304", "y\u0304"]),
  (0x2d8, [" \u0306", " \u0307", " \u030a", " \u0328", " \u0303", " \u030b"]),
  (0x344, ["\u0308\u0301"]), (0x37a, [" \u0345"]), (0x384, [" \u0301", " \u0308\u0301", "Α\u0301"]),
  (0x388, ["Ε\u0301", "Η\u0301", "Ι\u0301"]), (0x38c, ["Ο\u0301"]),
  (0x38e, ["Υ\u0301", "Ω\u0301", "ι\u0308\u0301"]),
  (0x3aa, ["Ι\u0308", "Υ\u0308", "α\u0301", "ε\u0301", "η\u0301", "ι\u0301"]),
  (0x3b0, ["υ\u0308\u0301"]), (0x3ca, ["ι\u0308", "υ\u0308", "ο\u0301", "υ\u0301", "ω\u0301"]),
  (0x3d3, ["Υ\u0301", "Υ\u0308"]), (0x400, ["Е\u0300", "Е\u0308"]), (0x403, ["Г\u0301"]),
  (0x407, ["І\u0308"]), (0x40c, ["К\u0301", "И\u0300", "У\u0306"]), (0x419, ["И\u0306"]),
  (0x439, ["и\u0306"]), (0x450, ["е\u0300", "е\u0308"]), (0x453, ["г\u0301"]), (0x457, ["і\u0308"]),
  (0x45c, ["к\u0301", "и\u0300", "у\u0306"]), (0x476, ["Ѵ\u030f", "ѵ\u030f"]),
  (0x4c1, ["Ж\u0306", "ж\u0306"]), (0x4d0, ["А\u0306", "а\u0306", "А\u0308", "а\u0308"]),
  (0x4d6, ["Е\u0306", "е\u0306"]),
  (0x4da, ["Ә\u0308", "ә\u0308", "Ж\u0308", "ж\u0308", "З\u0308", "з\u0308"]),
  (0x4e2, ["И\u0304", "и\u0304", "И\u0308", "и\u0308", "О\u0308", "о\u0308"]),
  (0x4ea, ["Ө\u0308", "ө\u0308", "Э\u0308", "э\u0308", "У\u0304", "у\u0304", "У\u0308"]),
  (0x4f1, ["у\u0308", "У\u030b", "у\u030b", "Ч\u0308", "ч\u0308"]), (0x4f8, ["Ы\u0308", "ы\u0308"]),
  (0x587, ["եւ"]),
  (0x622, ["\u0627\u0653", "\u0627\u0654", "\u0648\u0654", "\u0627\u0655", "\u064a\u0654"]),
  (0x675, ["\u0627\u0674", "\u0648\u0674", "\u06c7\u0674", "\u064a\u0674"]),
  (0x6c0, ["\u06d5\u0654"]), (0x6c2, ["\u06c1\u0654"]), (0x6d3, ["\u06d2\u0654"]),
  (0x929, ["न\u093c"]), (0x931, ["र\u093c"]), (0x934, ["ळ\u093c"]),
  (0x958, ["क\u093c", "ख\u093c", "ग\u093c", "ज\u093c", "ड\u093c", "ढ\u093c", "फ\u093c"]),
  (0x95f, ["य\u093c"]), (0x9cb, ["\u09c7\u09be", "\u09c7\u09d7"]), (0x9dc, ["ড\u09bc", "ঢ\u09bc"]),
  (0x9df, ["য\u09bc"]), (0xa33, ["ਲ\u0a3c"]), (0xa36, ["ਸ\u0a3c"]),
  (0xa59, ["ਖ\u0a3c", "ਗ\u0a3c", "ਜ\u0a3c"]), (0xa5e, ["ਫ\u0a3c"]), (0xb48, ["\u0b47\u0b56"]),
  (0xb4b, ["\u0b47\u0b3e", "\u0b47\u0b57"]), (0xb5c, ["ଡ\u0b3c", "ଢ\u0b3c"]), (0xb94, ["ஒ\u0bd7"]),
  (0xbca, ["\u0bc6\u0bbe", "\u0bc7\u0bbe", "\u0bc6\u0bd7"]), (0xc48, ["\u0c46\u0c56"]),
  (0xcc0, ["\u0cbf\u0cd5"]), (0xcc7, ["\u0cc6\u0cd5", "\u0cc6\u0cd6"]),
  (0xcca, ["\u0cc6\u0cc2", "\u0cc6\u0cc2\u0cd5"]),
  (0xd4a, ["\u0d46\u0d3e", "\u0d47\u0d3e", "\u0d46\u0d57"]), (0xdda, ["\u0dd9\u0dca"]),
  (0xddc, ["\u0dd9\u0dcf", "\u0dd9\u0dcf\u0dca", "\u0dd9\u0ddf"]), (0xe33, ["\u0e4dา"]),
  (0xeb3, ["\u0ecdາ"]), (0xedc, ["ຫນ", "ຫມ"]), (0xf43, ["ག\u0fb7"]), (0xf4d, ["ཌ\u0fb7"]),
  (0xf52, ["ད\u0fb7"]), (0xf57, ["བ\u0fb7"]), (0xf5c, ["ཛ\u0fb7"]), (0xf69, ["ཀ\u0fb5"]),
  (0xf73, ["\u0f71\u0f72"]),
  (0xf75, ["\u0f71\u0f74", "\u0fb2\u0f80", "\u0fb2\u0f71\u0f80", "\u0fb3\u0f80"]),
  (0xf79, ["\u0fb3\u0f71\u0f80"]), (0xf81, ["\u0f71\u0f80"]), (0xf93, ["\u0f92\u0fb7"]),
  (0xf9d, ["\u0f9c\u0fb7"]), (0xfa2, ["\u0fa1\u0fb7"]), (0xfa7, ["\u0fa6\u0fb7"]),
  (0xfac, ["\u0fab\u0fb7"]), (0xfb9, ["\u0f90\u0fb5"]), (0x1026, ["ဥ\u102e"]),
  (0x1e00, ["A\u0325", "a\u0325", "B\u0307", "b\u0307", "B\u0323", "b\u0323", "B\u0331"]),
  (0x1e07, ["b\u0331", "C\u0327\u0301", "c\u0327\u0301", "D\u0307", "d\u0307", "D\u0323"]),
  (0x1e0d, ["d\u0323", "D\u0331", "d\u0331", "D\u0327", "d\u0327", "D\u032d", "d\u032d"]),
  (0x1e14, ["E\u0304\u0300", "e\u0304\u0300", "E\u0304\u0301", "e\u0304\u0301", "E\u032d"]),
  (0x1e19, ["e\u032d", "E\u0330", "e\u0330", "E\u0327\u0306", "e\u0327\u0306", "F\u0307"]),
  (0x1e1f, ["f\u0307", "G\u0304", "g\u0304", "H\u0307", "h\u0307", "H\u0323", "h\u0323"]),
  (0x1e26, ["H\u0308", "h\u0308", "H\u0327", "h\u0327", "H\u032e", "h\u032e", "I\u0330"]),
  (0x1e2d, ["i\u0330", "I\u0308\u0301", "i\u0308\u0301", "K\u0301", "k\u0301", "K\u0323"]),
  (0x1e33, ["k\u0323", "K\u0331", "k\u0331", "L\u0323", "l\u0323", "L\u0323\u0304"]),
  (0x1e39, ["l\u0323\u0304", "L\u0331", "l\u0331", "L\u032d", "l\u032d", "M\u0301"]),
  (0x1e3f, ["m\u0301", "M\u0307", "m\u0307", "M\u0323", "m\u0323", "N\u0307", "n\u0307"]),
  (0x1e46, ["N\u0323", "n\u0323", "N\u0331", "n\u0331", "N\u032d", "n\u032d"]),
  (0x1e4c, ["O\u0303\u0301", "o\u0303\u0301", "O\u0303\u0308", "o\u0303\u0308"]),
  (0x1e50, ["O\u0304\u0300", "o\u0304\u0300", "O\u0304\u0301", "o\u0304\u0301", "P\u0301"]),
  (0x1e55, ["p\u0301", "P\u0307", "p\u0307", "R\u0307", "r\u0307", "R\u0323", "r\u0323"]),
  (0x1e5c, ["R\u0323\u0304", "r\u0323\u0304", "R\u0331", "r\u0331", "S\u0307", "s\u0307"]),
  (0x1e62, ["S\u0323", "s\u0323", "S\u0301\u0307", "s\u0301\u0307", "S\u030c\u0307"]),
  (0x1e67, ["s\u030c\u0307", "S\u0323\u0307", "s\u0323\u0307", "T\u0307", "t\u0307"]),
  (0x1e6c, ["T\u0323", "t\u0323", "T\u0331", "t\u0331", "T\u032d", "t\u032d", "U\u0324"]),
  (0x1e73, ["u\u0324", "U\u0330", "u\u0330", "U\u032d", "u\u032d", "U\u0303\u0301"]),
  (0x1e79, ["u\u0303\u0301", "U\u0304\u0308", "u\u0304\u0308", "V\u0303", "v\u0303"]),
  (0x1e7e, ["V\u0323", "v\u0323", "W\u0300", "w\u0300", "W\u0301", "w\u0301", "W\u0308"]),
  (0x1e85, ["w\u0308", "W\u0307", "w\u0307", "W\u0323", "w\u0323", "X\u0307", "x\u0307"]),
  (0x1e8c, ["X\u0308", "x\u0308", "Y\u0307", "y\u0307", "Z\u0302", "z\u0302", "Z\u0323"]),
  (0x1e93, ["z\u0323", "Z\u0331", "z\u0331", "h\u0331", "t\u0308", "w\u030a", "y\u030a"]),
  (0x1e9a, ["a\u02be", "s\u0307"]),
  (0x1ea0, ["A\u0323", "a\u0323", "A\u0309", "a\u0309", "A\u0302\u0301", "a\u0302\u0301"]),
  (0x1ea6, ["A\u0302\u0300", "a\u0302\u0300", "A\u0302\u0309", "a\u0302\u0309"]),
  (0x1eaa, ["A\u0302\u0303", "a\u0302\u0303", "A\u0323\u0302", "a\u0323\u0302"]),
  (0x1eae, ["A\u0306\u0301", "a\u0306\u0301", "A\u0306\u0300", "a\u0306\u0300"]),
  (0x1eb2, ["A\u0306\u0309", "a\u0306\u0309", "A\u0306\u0303", "a\u0306\u0303"]),
  (0x1eb6, ["A\u0323\u0306", "a\u0323\u0306", "E\u0323", "e\u0323", "E\u0309", "e\u0309"]),
  (0x1ebc, ["E\u0303", "e\u0303", "E\u0302\u0301", "e\u0302\u0301", "E\u0302\u0300"]),
  (0x1ec1, ["e\u0302\u0300", "E\u0302\u0309", "e\u0302\u0309", "E\u0302\u0303"]),
  (0x1ec5, ["e\u0302\u0303", "E\u0323\u0302", "e\u0323\u0302", "I\u0309", "i\u0309"]),
  (0x1eca, ["I\u0323", "i\u0323", "O\u0323", "o\u0323", "O\u0309", "o\u0309"]),
  (0x1ed0, ["O\u0302\u0301", "o\u0302\u0301", "O\u0302\u0300", "o\u0302\u0300"]),
  (0x1ed4, ["O\u0302\u0309", "o\u0302\u0309", "O\u0302\u0303", "o\u0302\u0303"]),
  (0x1ed8, ["O\u0323\u0302", "o\u0323\u0302", "O\u031b\u0301", "o\u031b\u0301"]),
  (0x1edc, ["O\u031b\u0300", "o\u031b\u0300", "O\u031b\u0309", "o\u031b\u0309"]),
  (0x1ee0, ["O\u031b\u0303", "o\u031b\u0303", "O\u031b\u0323", "o\u031b\u0323", "U\u0323"]),
  (0x1ee5, ["u\u0323", "U\u0309", "u\u0309", "U\u031b\u0301", "u\u031b\u0301"]),
  (0x1eea, ["U\u031b\u0300", "u\u031b\u0300", "U\u031b\u0309", "u\u031b\u0309"]),
  (0x1eee, ["U\u031b\u0303", "u\u031b\u0303", "U\u031b\u0323", "u\u031b\u0323", "Y\u0300"]),
  (0x1ef3, ["y\u0300", "Y\u0323", "y\u0323", "Y\u0309", "y\u0309", "Y\u0303", "y\u0303"]),
  (0x1f00, ["α\u0313", "α\u0314", "α\u0313\u0300", "α\u0314\u0300", "α\u0313\u0301"]),
  (0x1f05, ["α\u0314\u0301", "α\u0313\u0342", "α\u0314\u0342", "Α\u0313", "Α\u0314"]),
  (0x1f0a, ["Α\u0313\u0300", "Α\u0314\u0300", "Α\u0313\u0301", "Α\u0314\u0301"]),
  (0x1f0e, ["Α\u0313\u0342", "Α\u0314\u0342", "ε\u0313", "ε\u0314", "ε\u0313\u0300"]),
  (0x1f13, ["ε\u0314\u0300", "ε\u0313\u0301", "ε\u0314\u0301"]),
  (0x1f18, ["Ε\u0313", "Ε\u0314", "Ε\u0313\u0300", "Ε\u0314\u0300", "Ε\u0313\u0301"]),
  (0x1f1d, ["Ε\u0314\u0301"]),
  (0x1f20, ["η\u0313", "η\u0314", "η\u0313\u0300", "η\u0314\u0300", "η\u0313\u0301"]),
  (0x1f25, ["η\u0314\u0301", "η\u0313\u0342", "η\u0314\u0342", "Η\u0313", "Η\u0314"]),
  (0x1f2a, ["Η\u0313\u0300", "Η\u0314\u0300", "Η\u0313\u0301", "Η\u0314\u0301"]),
  (0x1f2e, ["Η\u0313\u0342", "Η\u0314\u0342", "ι\u0313", "ι\u0314", "ι\u0313\u0300"]),
  (0x1f33, ["ι\u0314\u0300", "ι\u0313\u0301", "ι\u0314\u0301", "ι\u0313\u0342"]),
  (0x1f37, ["ι\u0314\u0342", "Ι\u0313", "Ι\u0314", "Ι\u0313\u0300", "Ι\u0314\u0300"]),
  (0x1f3c, ["Ι\u0313\u0301", "Ι\u0314\u0301", "Ι\u0313\u0342", "Ι\u0314\u0342", "ο\u0313"]),
  (0x1f41, ["ο\u0314", "ο\u0313\u0300", "ο\u0314\u0300", "ο\u0313\u0301", "ο\u0314\u0301"]),
  (0x1f48, ["Ο\u0313", "Ο\u0314", "Ο\u0313\u0300", "Ο\u0314\u0300", "Ο\u0313\u0301"]),
  (0x1f4d, ["Ο\u0314\u0301"]),
  (0x1f50, ["υ\u0313", "υ\u0314", "υ\u0313\u0300", "υ\u0314\u0300", "υ\u0313\u0301"]),
  (0x1f55, ["υ\u0314\u0301", "υ\u0313\u0342", "υ\u0314\u0342"]), (0x1f59, ["Υ\u0314"]),
  (0x1f5b, ["Υ\u0314\u0300"]), (0x1f5d, ["Υ\u0314\u0301"]),
  (0x1f5f, ["Υ\u0314\u0342", "ω\u0313", "ω\u0314", "ω\u0313\u0300", "ω\u0314\u0300"]),
  (0x1f64, ["ω\u0313\u0301", "ω\u0314\u0301", "ω\u0313\u0342", "ω\u0314\u0342", "Ω\u0313"]),
  (0x1f69, ["Ω\u0314", "Ω\u0313\u0300", "Ω\u0314\u0300", "Ω\u0313\u0301", "Ω\u0314\u0301"]),
  (0x1f6e, ["Ω\u0313\u0342", "Ω\u0314\u0342", "α\u0300", "α\u0301", "ε\u0300", "ε\u0301"]),
  (0x1f74, ["η\u0300", "η\u0301", "ι\u0300", "ι\u0301", "ο\u0300", "ο\u0301", "υ\u0300"]),
  (0x1f7b, ["υ\u0301", "ω\u0300", "ω\u0301"]),
  (0x1f80, ["α\u0313\u0345", "α\u0314\u0345", "α\u0313\u0300\u0345", "α\u0314\u0300\u0345"]),
  (0x1f84, ["α\u0313\u0301\u0345", "α\u0314\u0301\u0345", "α\u0313\u0342\u0345"]),
  (0x1f87, ["α\u0314\u0342\u0345", "Α\u0313\u0345", "Α\u0314\u0345", "Α\u0313\u0300\u0345"]),
  (0x1f8b, ["Α\u0314\u0300\u0345", "Α\u0313\u0301\u0345", "Α\u0314\u0301\u0345"]),
  (0x1f8e, ["Α\u0313\u0342\u0345", "Α\u0314\u0342\u0345", "η\u0313\u0345", "η\u0314\u0345"]),
  (0x1f92, ["η\u0313\u0300\u0345", "η\u0314\u0300\u0345", "η\u0313\u0301\u0345"]),
  (0x1f95, ["η\u0314\u0301\u0345", "η\u0313\u0342\u0345", "η\u0314\u0342\u0345"]),
  (0x1f98, ["Η\u0313\u0345", "Η\u0314\u0345", "Η\u0313\u0300\u0345", "Η\u0314\u0300\u0345"]),
  (0x1f9c, ["Η\u0313\u0301\u0345", "Η\u0314\u0301\u0345", "Η\u0313\u0342\u0345"]),
  (0x1f9f, ["Η\u0314\u0342\u0345", "ω\u0313\u0345", "ω\u0314\u0345", "ω\u0313\u0300\u0345"]),
  (0x1fa3, ["ω\u0314\u0300\u0345", "ω\u0313\u0301\u0345", "ω\u0314\u0301\u0345"]),
  (0x1fa6, ["ω\u0313\u0342\u0345", "ω\u0314\u0342\u0345", "Ω\u0313\u0345", "Ω\u0314\u0345"]),
  (0x1faa, ["Ω\u0313\u0300\u0345", "Ω\u0314\u0300\u0345", "Ω\u0313\u0301\u0345"]),
  (0x1fad, ["Ω\u0314\u0301\u0345", "Ω\u0313\u0342\u0345", "Ω\u0314\u0342\u0345", "α\u0306"]),
  (0x1fb1, ["α\u0304", "α\u0300\u0345", "α\u0345", "α\u0301\u0345"]),
  (0x1fb6, ["α\u0342", "α\u0342\u0345", "Α\u0306", "Α\u0304", "Α\u0300", "Α\u0301"]),
  (0x1fbc, ["Α\u0345", " \u0313"]),
  (0x1fbf, [" \u0313", " \u0342", " \u0308\u0342", "η\u0300\u0345", "η\u0345"]),
  (0x1fc4, ["η\u0301\u0345"]),
  (0x1fc6, ["η\u0342", "η\u0342\u0345", "Ε\u0300", "Ε\u0301", "Η\u0300", "Η\u0301"]),
  (0x1fcc, ["Η\u0345", " \u0313\u0300", " \u0313\u0301", " \u0313\u0342", "ι\u0306"]),
  (0x1fd1, ["ι\u0304", "ι\u0308\u0300", "ι\u0308\u0301"]),
  (0x1fd6, ["ι\u0342", "ι\u0308\u0342", "Ι\u0306", "Ι\u0304", "Ι\u0300", "Ι\u0301"]),
  (0x1fdd, [" \u0314\u0300", " \u0314\u0301", " \u0314\u0342", "υ\u0306", "υ\u0304"]),
  (0x1fe2, ["υ\u0308\u0300", "υ\u0308\u0301", "ρ\u0313", "ρ\u0314", "υ\u0342"]),
  (0x1fe7, ["υ\u0308\u0342", "Υ\u0306", "Υ\u0304", "Υ\u0300", "Υ\u0301", "Ρ\u0314"]),
  (0x1fed, [" \u0308\u0300", " \u0308\u0301"]),
  (0x1ff2, ["ω\u0300\u0345", "ω\u0345", "ω\u0301\u0345"]),
  (0x1ff6, ["ω\u0342", "ω\u0342\u0345", "Ο\u0300", "Ο\u0301", "Ω\u0300", "Ω\u0301"]),
  (0x1ffc, ["Ω\u0345", " \u0301", " \u0314"]), (0x2017, [" \u0333"]), (0x2025, ["..", "..."]),
  (0x2033, ["′′", "′′′"]), (0x2036, ["‵‵", "‵‵‵"]), (0x203c, ["!!"]), (0x203e, [" \u0305"]),
  (0x2047, ["??", "?!", "!?"]), (0x2057, ["′′′′"]), (0x20a8, ["Rs"]), (0x2100, ["a/c", "a/s"]),
  (0x2103, ["°C"]), (0x2105, ["c/o", "c/u"]), (0x2109, ["°F"]), (0x2116, ["No"]),
  (0x2120, ["SM", "TEL", "TM"]), (0x212b, ["A\u030a"]),
  (0x2153, ["1⁄3", "2⁄3", "1⁄5", "2⁄5", "3⁄5", "4⁄5", "1⁄6", "5⁄6", "1⁄8", "3⁄8", "5⁄8"]),
  (0x215e, ["7⁄8", "1⁄"]), (0x2161, ["II", "III", "IV"]), (0x2165, ["VI", "VII", "VIII", "IX"]),
  (0x216a, ["XI", "XII"]), (0x2171, ["ii", "iii", "iv"]), (0x2175, ["vi", "vii", "viii", "ix"]),
  (0x217a, ["xi", "xii"]), (0x219a, ["←\u0338", "→\u0338"]), (0x21ae, ["↔\u0338"]),
  (0x21cd, ["⇐\u0338", "⇔\u0338", "⇒\u0338"]), (0x2204, ["∃\u0338"]), (0x2209, ["∈\u0338"]),
  (0x220c, ["∋\u0338"]), (0x2224, ["∣\u0338"]), (0x2226, ["∥\u0338"]), (0x222c, ["∫∫", "∫∫∫"]),
  (0x222f, ["∮∮", "∮∮∮"]), (0x2241, ["∼\u0338"]), (0x2244, ["≃\u0338"]), (0x2247, ["≅\u0338"]),
  (0x2249, ["≈\u0338"]), (0x2260, ["=\u0338"]), (0x2262, ["≡\u0338"]),
  (0x226d, ["≍\u0338", "<\u0338", ">\u0338", "≤\u0338", "≥\u0338"]),
  (0x2274, ["≲\u0338", "≳\u0338"]), (0x2278, ["≶\u0338", "≷\u0338"]),
  (0x2280, ["≺\u0338", "≻\u0338"]), (0x2284, ["⊂\u0338", "⊃\u0338"]),
  (0x2288, ["⊆\u0338", "⊇\u0338"]), (0x22ac, ["⊢\u0338", "⊨\u0338", "⊩\u0338", "⊫\u0338"]),
  (0x22e0, ["≼\u0338", "≽\u0338", "⊑\u0338", "⊒\u0338"]),
  (0x22ea, ["⊲\u0338", "⊳\u0338", "⊴\u0338", "⊵\u0338"]),
  (0x2469, ["10", "11", "12", "13", "14", "15", "16", "17", "18", "19", "20", "(1)", "(2)"]),
  (0x2476, ["(3)", "(4)", "(5)", "(6)", "(7)", "(8)", "(9)", "(10)", "(11)", "(12)", "(13)"]),
  (0x2481, ["(14)", "(15)", "(16)", "(17)", "(18)", "(19)", "(20)", "1.", "2.", "3.", "4."]),
  (0x248c, ["5.", "6.", "7.", "8.", "9.", "10.", "11.", "12.", "13.", "14.", "15.", "16."]),
  (0x2498, ["17.", "18.", "19.", "20.", "(a)", "(b)", "(c)", "(d)", "(e)", "(f)", "(g)"]),
  (0x24a3, ["(h)", "(i)", "(j)", "(k)", "(l)", "(m)", "(n)", "(o)", "(p)", "(q)", "(r)"]),
  (0x24ae, ["(s)", "(t)", "(u)", "(v)", "(w)", "(x)", "(y)", "(z)"]), (0x2a0c, ["∫∫∫∫"]),
  (0x2a74, ["::=", "==", "==="]), (0x2adc, ["⫝\u0338"]), (0x304c, ["か\u3099"]),
  (0x304e, ["き\u3099"]), (0x3050, ["く\u3099"]), (0x3052, ["け\u3099"]), (0x3054, ["こ\u3099"]),
  (0x3056, ["さ\u3099"]), (0x3058, ["し\u3099"]), (0x305a, ["す\u3099"]), (0x305c, ["せ\u3099"]),
  (0x305e, ["そ\u3099"]), (0x3060, ["た\u3099"]), (0x3062, ["ち\u3099"]), (0x3065, ["つ\u3099"]),
  (0x3067, ["て\u3099"]), (0x3069, ["と\u3099"]), (0x3070, ["は\u3099", "は\u309a"]),
  (0x3073, ["ひ\u3099", "ひ\u309a"]), (0x3076, ["ふ\u3099", "ふ\u309a"]),
  (0x3079, ["へ\u3099", "へ\u309a"]), (0x307c, ["ほ\u3099", "ほ\u309a"]), (0x3094, ["う\u3099"]),
  (0x309b, [" \u3099", " \u309a"]), (0x309e, ["ゝ\u3099", "より"]), (0x30ac, ["カ\u3099"]),
  (0x30ae, ["キ\u3099"]), (0x30b0, ["ク\u3099"]), (0x30b2, ["ケ\u3099"]), (0x30b4, ["コ\u3099"]),
  (0x30b6, ["サ\u3099"]), (0x30b8, ["シ\u3099"]), (0x30ba, ["ス\u3099"]), (0x30bc, ["セ\u3099"]),
  (0x30be, ["ソ\u3099"]), (0x30c0, ["タ\u3099"]), (0x30c2, ["チ\u3099"]), (0x30c5, ["ツ\u3099"]),
  (0x30c7, ["テ\u3099"]), (0x30c9, ["ト\u3099"]), (0x30d0, ["ハ\u3099", "ハ\u309a"]),
  (0x30d3, ["ヒ\u3099", "ヒ\u309a"]), (0x30d6, ["フ\u3099", "フ\u309a"]),
  (0x30d9, ["ヘ\u3099", "ヘ\u309a"]), (0x30dc, ["ホ\u3099", "ホ\u309a"]), (0x30f4, ["ウ\u3099"]),
  (0x30f7, ["ワ\u3099", "ヰ\u3099", "ヱ\u3099", "ヲ\u3099"]), (0x30fe, ["ヽ\u3099", "コト"]),
  (0x3200, ["(ᄀ)", "(ᄂ)", "(ᄃ)", "(ᄅ)", "(ᄆ)", "(ᄇ)", "(ᄉ)", "(ᄋ)", "(ᄌ)", "(ᄎ)"]),
  (0x320a, ["(ᄏ)", "(ᄐ)", "(ᄑ)", "(ᄒ)", "(가)", "(나)", "(다)", "(라)", "(마)"]),
  (0x3213, ["(바)", "(사)", "(아)", "(자)", "(차)", "(카)", "(타)", "(파)", "(하)"]),
  (0x321c, ["(주)"]),
  (0x3220, ["(一)", "(二)", "(三)", "(四)", "(五)", "(六)", "(七)", "(八)", "(九)", "(十)"]),
  (0x322a, ["(月)", "(火)", "(水)", "(木)", "(金)", "(土)", "(日)", "(株)", "(有)", "(社)"]),
  (0x3234, ["(名)", "(特)", "(財)", "(祝)", "(労)", "(代)", "(呼)", "(学)", "(監)", "(企)"]),
  (0x323e, ["(資)", "(協)", "(祭)", "(休)", "(自)", "(至)"]),
  (0x3251, ["21", "22", "23", "24", "25", "26", "27", "28", "29", "30", "31", "32", "33"]),
  (0x325e, ["34", "35"]),
  (0x326e, ["가", "나", "다", "라", "마", "바", "사", "아", "자", "차", "카"]),
  (0x3279, ["타", "파", "하"]),
  (0x32b1, ["36", "37", "38", "39", "40", "41", "42", "43", "44", "45", "46", "47", "48"]),
  (0x32be, ["49", "50", "1月", "2月", "3月", "4月", "5月", "6月", "7月", "8月", "9月"]),
  (0x32c9, ["10月", "11月", "12月"]),
  (0x3300, ["アハ\u309aート", "アルファ", "アンヘ\u309aア", "アール", "イニンク\u3099"]),
  (0x3305, ["インチ", "ウォン", "エスクート\u3099", "エーカー", "オンス", "オーム", "カイリ"]),
  (0x330c, ["カラット", "カロリー", "カ\u3099ロン", "カ\u3099ンマ", "キ\u3099カ\u3099"]),
  (0x3311, ["キ\u3099ニー", "キュリー", "キ\u3099ルタ\u3099ー", "キロ", "キロク\u3099ラム"]),
  (0x3316, ["キロメートル", "キロワット", "ク\u3099ラム", "ク\u3099ラムトン"]),
  (0x331a, ["クルセ\u3099イロ", "クローネ", "ケース", "コルナ", "コーホ\u309a", "サイクル"]),
  (0x3320, ["サンチーム", "シリンク\u3099", "センチ", "セント", "タ\u3099ース", "テ\u3099シ"]),
  (0x3326, ["ト\u3099ル", "トン", "ナノ", "ノット", "ハイツ", "ハ\u309aーセント"]),
  (0x332c, ["ハ\u309aーツ", "ハ\u3099ーレル", "ヒ\u309aアストル", "ヒ\u309aクル"]),
  (0x3330, ["ヒ\u309aコ", "ヒ\u3099ル", "ファラット\u3099", "フィート", "フ\u3099ッシェル"]),
  (0x3335, ["フラン", "ヘクタール", "ヘ\u309aソ", "ヘ\u309aニヒ", "ヘルツ", "ヘ\u309aンス"]),
  (0x333b, ["ヘ\u309aーシ\u3099", "ヘ\u3099ータ", "ホ\u309aイント", "ホ\u3099ルト", "ホン"]),
  (0x3340, ["ホ\u309aント\u3099", "ホール", "ホーン", "マイクロ", "マイル", "マッハ"]),
  (0x3346, ["マルク", "マンション", "ミクロン", "ミリ", "ミリハ\u3099ール", "メカ\u3099"]),
  (0x334c, ["メカ\u3099トン", "メートル", "ヤート\u3099", "ヤール", "ユアン", "リットル"]),
  (0x3352, ["リラ", "ルヒ\u309aー", "ルーフ\u3099ル", "レム", "レントケ\u3099ン", "ワット"]),
  (0x3358, ["0点", "1点", "2点", "3点", "4点", "5点", "6点", "7点", "8点", "9点", "10点"]),
  (0x3363, ["11点", "12点", "13点", "14点", "15点", "16点", "17点", "18点", "19点", "20点"]),
  (0x336d, ["21点", "22点", "23点", "24点", "hPa", "da", "AU", "bar", "oV", "pc"]),
  (0x337b, ["平成", "昭和", "大正", "明治", "株式会社", "pA", "nA", "μA", "mA", "kA", "KB"]),
  (0x3386, ["MB", "GB", "cal", "kcal", "pF", "nF", "μF", "μg", "mg", "kg", "Hz", "kHz"]),
  (0x3392, ["MHz", "GHz", "THz", "μl", "ml", "dl", "kl", "fm", "nm", "μm", "mm", "cm", "km"]),
  (0x339f, ["mm2", "cm2", "m2", "km2", "mm3", "cm3", "m3", "km3", "m∕s", "m∕s2", "Pa", "kPa"]),
  (0x33ab, ["MPa", "GPa", "rad", "rad∕s", "rad∕s2", "ps", "ns", "μs", "ms", "pV", "nV", "μV"]),
  (0x33b7, ["mV", "kV", "MV", "pW", "nW", "μW", "mW", "kW", "MW", "kΩ", "MΩ", "a.m.", "Bq"]),
  (0x33c4, ["cc", "cd", "C∕kg", "Co.", "dB", "Gy", "ha", "HP", "in", "KK", "KM", "kt", "lm"]),
  (0x33d1, ["ln", "log", "lx", "mb", "mil", "mol", "PH", "p.m.", "PPM", "PR", "sr", "Sv"]),
  (0x33dd, ["Wb"]),
  (0x33e0, ["1日", "2日", "3日", "4日", "5日", "6日", "7日", "8日", "9日", "10日", "11日"]),
  (0x33eb, ["12日", "13日", "14日", "15日", "16日", "17日", "18日", "19日", "20日", "21日"]),
  (0x33f5, ["22日", "23日", "24日", "25日", "26日", "27日", "28日", "29日", "30日", "31日"]),
  (0xfb00, ["ff", "fi", "fl", "ffi", "ffl", "st", "st"]), (0xfb13, ["մն", "մե", "մի", "վն", "մխ"]),
  (0xfb1d, ["\u05d9\u05b4"]), (0xfb1f, ["\u05f2\u05b7"]),
  (0xfb2a, ["\u05e9\u05c1", "\u05e9\u05c2", "\u05e9\u05bc\u05c1", "\u05e9\u05bc\u05c2"]),
  (0xfb2e, ["\u05d0\u05b7", "\u05d0\u05b8", "\u05d0\u05bc", "\u05d1\u05bc", "\u05d2\u05bc"]),
  (0xfb33, ["\u05d3\u05bc", "\u05d4\u05bc", "\u05d5\u05bc", "\u05d6\u05bc"]),
  (0xfb38, ["\u05d8\u05bc", "\u05d9\u05bc", "\u05da\u05bc", "\u05db\u05bc", "\u05dc\u05bc"]),
  (0xfb3e, ["\u05de\u05bc"]), (0xfb40, ["\u05e0\u05bc", "\u05e1\u05bc"]),
  (0xfb43, ["\u05e3\u05bc", "\u05e4\u05bc"]),
  (0xfb46, ["\u05e6\u05bc", "\u05e7\u05bc", "\u05e8\u05bc", "\u05e9\u05bc", "\u05ea\u05bc"]),
  (0xfb4b, ["\u05d5\u05b9", "\u05d1\u05bf", "\u05db\u05bf", "\u05e4\u05bf", "\u05d0\u05dc"]),
  (0xfba4, ["\u06d5\u0654", "\u06d5\u0654"]), (0xfbb0, ["\u06d2\u0654", "\u06d2\u0654"]),
  (0xfbdd, ["\u06c7\u0674"]),
  (0xfbea, ["\u064a\u0654\u0627", "\u064a\u0654\u0627", "\u064a\u0654\u06d5"]),
  (0xfbed, ["\u064a\u0654\u06d5", "\u064a\u0654\u0648", "\u064a\u0654\u0648"]),
  (0xfbf0, ["\u064a\u0654\u06c7", "\u064a\u0654\u06c7", "\u064a\u0654\u06c6"]),
  (0xfbf3, ["\u064a\u0654\u06c6", "\u064a\u0654\u06c8", "\u064a\u0654\u06c8"]),
  (0xfbf6, ["\u064a\u0654\u06d0", "\u064a\u0654\u06d0", "\u064a\u0654\u06d0"]),
  (0xfbf9, ["\u064a\u0654\u0649", "\u064a\u0654\u0649", "\u064a\u0654\u0649"]),
  (0xfc00, ["\u064a\u0654\u062c", "\u064a\u0654\u062d", "\u064a\u0654\u0645"]),
  (0xfc03, ["\u064a\u0654\u0649", "\u064a\u0654\u064a", "\u0628\u062c", "\u0628\u062d"]),
  (0xfc07, ["\u0628\u062e", "\u0628\u0645", "\u0628\u0649", "\u0628\u064a", "\u062a\u062c"]),
  (0xfc0c, ["\u062a\u062d", "\u062a\u062e", "\u062a\u0645", "\u062a\u0649", "\u062a\u064a"]),
  (0xfc11, ["\u062b\u062c", "\u062b\u0645", "\u062b\u0649", "\u062b\u064a", "\u062c\u062d"]),
  (0xfc16, ["\u062c\u0645", "\u062d\u062c", "\u062d\u0645", "\u062e\u062c", "\u062e\u062d"]),
  (0xfc1b, ["\u062e\u0645", "\u0633\u062c", "\u0633\u062d", "\u0633\u062e", "\u0633\u0645"]),
  (0xfc20, ["\u0635\u062d", "\u0635\u0645", "\u0636\u062c", "\u0636\u062d", "\u0636\u062e"]),
  (0xfc25, ["\u0636\u0645", "\u0637\u062d", "\u0637\u0645", "\u0638\u0645", "\u0639\u062c"]),
  (0xfc2a, ["\u0639\u0645", "\u063a\u062c", "\u063a\u0645", "\u0641\u062c", "\u0641\u062d"]),
  (0xfc2f, ["\u0641\u062e", "\u0641\u0645", "\u0641\u0649", "\u0641\u064a", "\u0642\u062d"]),
  (0xfc34, ["\u0642\u0645", "\u0642\u0649", "\u0642\u064a", "\u0643\u0627", "\u0643\u062c"]),
  (0xfc39, ["\u0643\u062d", "\u0643\u062e", "\u0643\u0644", "\u0643\u0645", "\u0643\u0649"]),
  (0xfc3e, ["\u0643\u064a", "\u0644\u062c", "\u0644\u062d", "\u0644\u062e", "\u0644\u0645"]),
  (0xfc43, ["\u0644\u0649", "\u0644\u064a", "\u0645\u062c", "\u0645\u062d", "\u0645\u062e"]),
  (0xfc48, ["\u0645\u0645", "\u0645\u0649", "\u0645\u064a", "\u0646\u062c", "\u0646\u062d"]),
  (0xfc4d, ["\u0646\u062e", "\u0646\u0645", "\u0646\u0649", "\u0646\u064a", "\u0647\u062c"]),
  (0xfc52, ["\u0647\u0645", "\u0647\u0649", "\u0647\u064a", "\u064a\u062c", "\u064a\u062d"]),
  (0xfc57, ["\u064a\u062e", "\u064a\u0645", "\u064a\u0649", "\u064a\u064a", "\u0630\u0670"]),
  (0xfc5c, ["\u0631\u0670", "\u0649\u0670", " \u064c\u0651", " \u064d\u0651"]),
  (0xfc60, [" \u064e\u0651", " \u064f\u0651", " \u0650\u0651", " \u0651\u0670"]),
  (0xfc64, ["\u064a\u0654\u0631", "\u064a\u0654\u0632", "\u064a\u0654\u0645"]),
  (0xfc67, ["\u064a\u0654\u0646", "\u064a\u0654\u0649", "\u064a\u0654\u064a", "\u0628\u0631"]),
  (0xfc6b, ["\u0628\u0632", "\u0628\u0645", "\u0628\u0646", "\u0628\u0649", "\u0628\u064a"]),
  (0xfc70, ["\u062a\u0631", "\u062a\u0632", "\u062a\u0645", "\u062a\u0646", "\u062a\u0649"]),
  (0xfc75, ["\u062a\u064a", "\u062b\u0631", "\u062b\u0632", "\u062b\u0645", "\u062b\u0646"]),
  (0xfc7a, ["\u062b\u0649", "\u062b\u064a", "\u0641\u0649", "\u0641\u064a", "\u0642\u0649"]),
  (0xfc7f, ["\u0642\u064a", "\u0643\u0627", "\u0643\u0644", "\u0643\u0645", "\u0643\u0649"]),
  (0xfc84, ["\u0643\u064a", "\u0644\u0645", "\u0644\u0649", "\u0644\u064a", "\u0645\u0627"]),
  (0xfc89, ["\u0645\u0645", "\u0646\u0631", "\u0646\u0632", "\u0646\u0645", "\u0646\u0646"]),
  (0xfc8e, ["\u0646\u0649", "\u0646\u064a", "\u0649\u0670", "\u064a\u0631", "\u064a\u0632"]),
  (0xfc93, ["\u064a\u0645", "\u064a\u0646", "\u064a\u0649", "\u064a\u064a"]),
  (0xfc97, ["\u064a\u0654\u062c", "\u064a\u0654\u062d", "\u064a\u0654\u062e"]),
  (0xfc9a, ["\u064a\u0654\u0645", "\u064a\u0654\u0647", "\u0628\u062c", "\u0628\u062d"]),
  (0xfc9e, ["\u0628\u062e", "\u0628\u0645", "\u0628\u0647", "\u062a\u062c", "\u062a\u062d"]),
  (0xfca3, ["\u062a\u062e", "\u062a\u0645", "\u062a\u0647", "\u062b\u0645", "\u062c\u062d"]),
  (0xfca8, ["\u062c\u0645", "\u062d\u062c", "\u062d\u0645", "\u062e\u062c", "\u062e\u0645"]),
  (0xfcad, ["\u0633\u062c", "\u0633\u062d", "\u0633\u062e", "\u0633\u0645", "\u0635\u062d"]),
  (0xfcb2, ["\u0635\u062e", "\u0635\u0645", "\u0636\u062c", "\u0636\u062d", "\u0636\u062e"]),
  (0xfcb7, ["\u0636\u0645", "\u0637\u062d", "\u0638\u0645", "\u0639\u062c", "\u0639\u0645"]),
  (0xfcbc, ["\u063a\u062c", "\u063a\u0645", "\u0641\u062c", "\u0641\u062d", "\u0641\u062e"]),
  (0xfcc1, ["\u0641\u0645", "\u0642\u062d", "\u0642\u0645", "\u0643\u062c", "\u0643\u062d"]),
  (0xfcc6, ["\u0643\u062e", "\u0643\u0644", "\u0643\u0645", "\u0644\u062c", "\u0644\u062d"]),
  (0xfccb, ["\u0644\u062e", "\u0644\u0645", "\u0644\u0647", "\u0645\u062c", "\u0645\u062d"]),
  (0xfcd0, ["\u0645\u062e", "\u0645\u0645", "\u0646\u062c", "\u0646\u062d", "\u0646\u062e"]),
  (0xfcd5, ["\u0646\u0645", "\u0646\u0647", "\u0647\u062c", "\u0647\u0645", "\u0647\u0670"]),
  (0xfcda, ["\u064a\u062c", "\u064a\u062d", "\u064a\u062e", "\u064a\u0645", "\u064a\u0647"]),
  (0xfcdf, ["\u064a\u0654\u0645", "\u064a\u0654\u0647", "\u0628\u0645", "\u0628\u0647"]),
  (0xfce3, ["\u062a\u0645", "\u062a\u0647", "\u062b\u0645", "\u062b\u0647", "\u0633\u0645"]),
  (0xfce8, ["\u0633\u0647", "\u0634\u0645", "\u0634\u0647", "\u0643\u0644", "\u0643\u0645"]),
  (0xfced, ["\u0644\u0645", "\u0646\u0645", "\u0646\u0647", "\u064a\u0645", "\u064a\u0647"]),
  (0xfcf2, ["\u0640\u064e\u0651", "\u0640\u064f\u0651", "\u0640\u0650\u0651", "\u0637\u0649"]),
  (0xfcf6, ["\u0637\u064a", "\u0639\u0649", "\u0639\u064a", "\u063a\u0649", "\u063a\u064a"]),
  (0xfcfb, ["\u0633\u0649", "\u0633\u064a", "\u0634\u0649", "\u0634\u064a", "\u062d\u0649"]),
  (0xfd00, ["\u062d\u064a", "\u062c\u0649", "\u062c\u064a", "\u062e\u0649", "\u062e\u064a"]),
  (0xfd05, ["\u0635\u0649", "\u0635\u064a", "\u0636\u0649", "\u0636\u064a", "\u0634\u062c"]),
  (0xfd0a, ["\u0634\u062d", "\u0634\u062e", "\u0634\u0645", "\u0634\u0631", "\u0633\u0631"]),
  (0xfd0f, ["\u0635\u0631", "\u0636\u0631", "\u0637\u0649", "\u0637\u064a", "\u0639\u0649"]),
  (0xfd14, ["\u0639\u064a", "\u063a\u0649", "\u063a\u064a", "\u0633\u0649", "\u0633\u064a"]),
  (0xfd19, ["\u0634\u0649", "\u0634\u064a", "\u062d\u0649", "\u062d\u064a", "\u062c\u0649"]),
  (0xfd1e, ["\u062c\u064a", "\u062e\u0649", "\u062e\u064a", "\u0635\u0649", "\u0635\u064a"]),
  (0xfd23, ["\u0636\u0649", "\u0636\u064a", "\u0634\u062c", "\u0634\u062d", "\u0634\u062e"]),
  (0xfd28, ["\u0634\u0645", "\u0634\u0631", "\u0633\u0631", "\u0635\u0631", "\u0636\u0631"]),
  (0xfd2d, ["\u0634\u062c", "\u0634\u062d", "\u0634\u062e", "\u0634\u0645", "\u0633\u0647"]),
  (0xfd32, ["\u0634\u0647", "\u0637\u0645", "\u0633\u062c", "\u0633\u062d", "\u0633\u062e"]),
  (0xfd37, ["\u0634\u062c", "\u0634\u062d", "\u0634\u062e", "\u0637\u0645", "\u0638\u0645"]),
  (0xfd3c, ["\u0627\u064b", "\u0627\u064b"]),
  (0xfd50, ["\u062a\u062c\u0645", "\u062a\u062d\u062c", "\u062a\u062d\u062c"]),
  (0xfd53, ["\u062a\u062d\u0645", "\u062a\u062e\u0645", "\u062a\u0645\u062c"]),
  (0xfd56, ["\u062a\u0645\u062d", "\u062a\u0645\u062e", "\u062c\u0645\u062d"]),
  (0xfd59, ["\u062c\u0645\u062d", "\u062d\u0645\u064a", "\u062d\u0645\u0649"]),
  (0xfd5c, ["\u0633\u062d\u062c", "\u0633\u062c\u062d", "\u0633\u062c\u0649"]),
  (0xfd5f, ["\u0633\u0645\u062d", "\u0633\u0645\u062d", "\u0633\u0645\u062c"]),
  (0xfd62, ["\u0633\u0645\u0645", "\u0633\u0645\u0645", "\u0635\u062d\u062d"]),
  (0xfd65, ["\u0635\u062d\u062d", "\u0635\u0645\u0645", "\u0634\u062d\u0645"]),
  (0xfd68, ["\u0634\u062d\u0645", "\u0634\u062c\u064a", "\u0634\u0645\u062e"]),
  (0xfd6b, ["\u0634\u0645\u062e", "\u0634\u0645\u0645", "\u0634\u0645\u0645"]),
  (0xfd6e, ["\u0636\u062d\u0649", "\u0636\u062e\u0645", "\u0636\u062e\u0645"]),
  (0xfd71, ["\u0637\u0645\u062d", "\u0637\u0645\u062d", "\u0637\u0645\u0645"]),
  (0xfd74, ["\u0637\u0645\u064a", "\u0639\u062c\u0645", "\u0639\u0645\u0645"]),
  (0xfd77, ["\u0639\u0645\u0645", "\u0639\u0645\u0649", "\u063a\u0645\u0645"]),
  (0xfd7a, ["\u063a\u0645\u064a", "\u063a\u0645\u0649", "\u0641\u062e\u0645"]),
  (0xfd7d, ["\u0641\u062e\u0645", "\u0642\u0645\u062d", "\u0642\u0645\u0645"]),
  (0xfd80, ["\u0644\u062d\u0645", "\u0644\u062d\u064a", "\u0644\u062d\u0649"]),
  (0xfd83, ["\u0644\u062c\u062c", "\u0644\u062c\u062c", "\u0644\u062e\u0645"]),
  (0xfd86, ["\u0644\u062e\u0645", "\u0644\u0645\u062d", "\u0644\u0645\u062d"]),
  (0xfd89, ["\u0645\u062d\u062c", "\u0645\u062d\u0645", "\u0645\u062d\u064a"]),
  (0xfd8c, ["\u0645\u062c\u062d", "\u0645\u062c\u0645", "\u0645\u062e\u062c"]),
  (0xfd8f, ["\u0645\u062e\u0645"]),
  (0xfd92, ["\u0645\u062c\u062e", "\u0647\u0645\u062c", "\u0647\u0645\u0645"]),
  (0xfd95, ["\u0646\u062d\u0645", "\u0646\u062d\u0649", "\u0646\u062c\u0645"]),
  (0xfd98, ["\u0646\u062c\u0645", "\u0646\u062c\u0649", "\u0646\u0645\u064a"]),
  (0xfd9b, ["\u0646\u0645\u0649", "\u064a\u0645\u0645", "\u064a\u0645\u0645"]),
  (0xfd9e, ["\u0628\u062e\u064a", "\u062a\u062c\u064a", "\u062a\u062c\u0649"]),
  (0xfda1, ["\u062a\u062e\u064a", "\u062a\u062e\u0649", "\u062a\u0645\u064a"]),
  (0xfda4, ["\u062a\u0645\u0649", "\u062c\u0645\u064a", "\u062c\u062d\u0649"]),
  (0xfda7, ["\u062c\u0645\u0649", "\u0633\u062e\u0649", "\u0635\u062d\u064a"]),
  (0xfdaa, ["\u0634\u062d\u064a", "\u0636\u062d\u064a", "\u0644\u062c\u064a"]),
  (0xfdad, ["\u0644\u0645\u064a", "\u064a\u062d\u064a", "\u064a\u062c\u064a"]),
  (0xfdb0, ["\u064a\u0645\u064a", "\u0645\u0645\u064a", "\u0642\u0645\u064a"]),
  (0xfdb3, ["\u0646\u062d\u064a", "\u0642\u0645\u062d", "\u0644\u062d\u0645"]),
  (0xfdb6, ["\u0639\u0645\u064a", "\u0643\u0645\u064a", "\u0646\u062c\u062d"]),
  (0xfdb9, ["\u0645\u062e\u064a", "\u0644\u062c\u0645", "\u0643\u0645\u0645"]),
  (0xfdbc, ["\u0644\u062c\u0645", "\u0646\u062c\u062d", "\u062c\u062d\u064a"]),
  (0xfdbf, ["\u062d\u062c\u064a", "\u0645\u062c\u064a", "\u0641\u0645\u064a"]),
  (0xfdc2, ["\u0628\u062d\u064a", "\u0643\u0645\u0645", "\u0639\u062c\u0645"]),
  (0xfdc5, ["\u0635\u0645\u0645", "\u0633\u062e\u064a", "\u0646\u062c\u064a"]),
  (0xfdf0, ["\u0635\u0644\u06d2", "\u0642\u0644\u06d2", "\u0627\u0644\u0644\u0647"]),
  (0xfdf3, ["\u0627\u0643\u0628\u0631", "\u0645\u062d\u0645\u062f"]),
  (0xfdf5, ["\u0635\u0644\u0639\u0645", "\u0631\u0633\u0648\u0644"]),
  (0xfdf7, ["\u0639\u0644\u064a\u0647", "\u0648\u0633\u0644\u0645", "\u0635\u0644\u0649"]),
  (0xfdfa, ["\u0635\u0644\u0649 \u0627\u0644\u0644\u0647 " ++
    "\u0639\u0644\u064a\u0647 \u0648\u0633\u0644\u0645"]),
  (0xfdfb, ["\u062c\u0644 \u062c\u0644\u0627\u0644\u0647", "\u0631\u06cc\u0627\u0644"]),
  (0xfe30, [".."]), (0xfe49, [" \u0305", " \u0305", " \u0305", " \u0305"]),
  (0xfe70, [" \u064b", "\u0640\u064b", " \u064c"]), (0xfe74, [" \u064d"]),
  (0xfe76, [" \u064e", "\u0640\u064e", " \u064f", "\u0640\u064f", " \u0650", "\u0640\u0650"]),
  (0xfe7c, [" \u0651", "\u0640\u0651", " \u0652", "\u0640\u0652"]),
  (0xfe81, ["\u0627\u0653", "\u0627\u0653", "\u0627\u0654", "\u0627\u0654", "\u0648\u0654"]),
  (0xfe86, ["\u0648\u0654", "\u0627\u0655", "\u0627\u0655", "\u064a\u0654", "\u064a\u0654"]),
  (0xfe8b, ["\u064a\u0654", "\u064a\u0654"]),
  (0xfef5, ["\u0644\u0627\u0653", "\u0644\u0627\u0653", "\u0644\u0627\u0654"]),
  (0xfef8, ["\u0644\u0627\u0654", "\u0644\u0627\u0655", "\u0644\u0627\u0655", "\u0644\u0627"]),
  (0xfefc, ["\u0644\u0627"]), (0xffe3, [" \u0304"]),
  (0x1d15e, ["𝅗𝅥", "𝅘𝅥", "𝅘𝅥𝅮", "𝅘𝅥𝅯", "𝅘𝅥𝅰", "𝅘𝅥𝅱", "𝅘𝅥𝅲"]),
  (0x1d1bb, ["𝆹𝅥", "𝆺𝅥", "𝆹𝅥𝅮", "𝆺𝅥𝅮", "𝆹𝅥𝅯", "𝆺𝅥𝅯"])]

end ApiKeys.Normal
