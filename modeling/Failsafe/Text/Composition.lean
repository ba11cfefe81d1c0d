import Failsafe.Text.Printable
/-
  Characters with marks: one character, or a letter with marks behind it.

  Both are the same text. `compose` brings a text into the one form in which marks are in order,
  and every letter and its mark are one character if there is such a character; a text is composed
  if that changes nothing.
-/

namespace Failsafe.Text

/-! ## Tables -/

/-- Words of a character and the two that it is composed of. -/
def compositeWords : List String := [
    "ÀÀ ÁÁ ÂÂ ÃÃ ÄÄ ÅÅ ÇÇ ÈÈ ÉÉ ÊÊ ËË ÌÌ ÍÍ ÎÎ ÏÏ ÑÑ ÒÒ ÓÓ ÔÔ ÕÕ ÖÖ ÙÙ ÚÚ",
    "ÛÛ ÜÜ ÝÝ àà áá ââ ãã ää åå çç èè éé êê ëë ìì íí îî ïï ññ òò óó ôô õõ",
    "öö ùù úú ûû üü ýý ÿÿ ĀĀ āā ĂĂ ăă ĄĄ ąą ĆĆ ćć ĈĈ ĉĉ ĊĊ ċċ ČČ čč ĎĎ ďď",
    "ĒĒ ēē ĔĔ ĕĕ ĖĖ ėė ĘĘ ęę ĚĚ ěě ĜĜ ĝĝ ĞĞ ğğ ĠĠ ġġ ĢĢ ģģ ĤĤ ĥĥ ĨĨ ĩĩ ĪĪ",
    "īī ĬĬ ĭĭ ĮĮ įį İİ ĴĴ ĵĵ ĶĶ ķķ ĹĹ ĺĺ ĻĻ ļļ ĽĽ ľľ ŃŃ ńń ŅŅ ņņ ŇŇ ňň ŌŌ",
    "ōō ŎŎ ŏŏ ŐŐ őő ŔŔ ŕŕ ŖŖ ŗŗ ŘŘ řř ŚŚ śś ŜŜ ŝŝ ŞŞ şş ŠŠ šš ŢŢ ţţ ŤŤ ťť",
    "ŨŨ ũũ ŪŪ ūū ŬŬ ŭŭ ŮŮ ůů ŰŰ űű ŲŲ ųų ŴŴ ŵŵ ŶŶ ŷŷ ŸŸ ŹŹ źź ŻŻ żż ŽŽ žž",
    "ƠƠ ơơ ƯƯ ưư ǍǍ ǎǎ ǏǏ ǐǐ ǑǑ ǒǒ ǓǓ ǔǔ ǕǕ ǖǖ ǗǗ ǘǘ ǙǙ ǚǚ ǛǛ ǜǜ ǞǞ ǟǟ ǠǠ",
    "ǡǡ ǢǢ ǣǣ ǦǦ ǧǧ ǨǨ ǩǩ ǪǪ ǫǫ ǬǬ ǭǭ ǮǮ ǯǯ ǰǰ ǴǴ ǵǵ ǸǸ ǹǹ ǺǺ ǻǻ ǼǼ ǽǽ ǾǾ",
    "ǿǿ ȀȀ ȁȁ ȂȂ ȃȃ ȄȄ ȅȅ ȆȆ ȇȇ ȈȈ ȉȉ ȊȊ ȋȋ ȌȌ ȍȍ ȎȎ ȏȏ ȐȐ ȑȑ ȒȒ ȓȓ ȔȔ ȕȕ",
    "ȖȖ ȗȗ ȘȘ șș ȚȚ țț ȞȞ ȟȟ ȦȦ ȧȧ ȨȨ ȩȩ ȪȪ ȫȫ ȬȬ ȭȭ ȮȮ ȯȯ ȰȰ ȱȱ ȲȲ ȳȳ ΅΅",
    "ΆΆ ΈΈ ΉΉ ΊΊ ΌΌ ΎΎ ΏΏ ΐΐ ΪΪ ΫΫ άά έέ ήή ίί ΰΰ ϊϊ ϋϋ όό ύύ ώώ ϓϓ ϔϔ ЀЀ",
    "ЁЁ ЃЃ ЇЇ ЌЌ ЍЍ ЎЎ ЙЙ йй ѐѐ ёё ѓѓ її ќќ ѝѝ ўў ѶѶ ѷѷ ӁӁ ӂӂ ӐӐ ӑӑ ӒӒ ӓӓ",
    "ӖӖ ӗӗ ӚӚ ӛӛ ӜӜ ӝӝ ӞӞ ӟӟ ӢӢ ӣӣ ӤӤ ӥӥ ӦӦ ӧӧ ӪӪ ӫӫ ӬӬ ӭӭ ӮӮ ӯӯ ӰӰ ӱӱ ӲӲ",
    "ӳӳ ӴӴ ӵӵ ӸӸ ӹӹ آآ أأ ؤؤ إإ ئئ ۀۀ ۂۂ ۓۓ ऩऩ ऱऱ ऴऴ োো ৌৌ ୈୈ ୋୋ ୌୌ ஔஔ ொொ",
    "ோோ ௌௌ ైై ೀೀ ೇೇ ೈೈ ೊೊ ೋೋ ൊൊ ോോ ൌൌ ේේ ොො ෝෝ ෞෞ ဦဦ ᬆᬆ ᬈᬈ ᬊᬊ ᬌᬌ ᬎᬎ ᬒᬒ ᬻᬻ",
    "ᬽᬽ ᭀᭀ ᭁᭁ ᭃᭃ ḀḀ ḁḁ ḂḂ ḃḃ ḄḄ ḅḅ ḆḆ ḇḇ ḈḈ ḉḉ ḊḊ ḋḋ ḌḌ ḍḍ ḎḎ ḏḏ ḐḐ ḑḑ ḒḒ",
    "ḓḓ ḔḔ ḕḕ ḖḖ ḗḗ ḘḘ ḙḙ ḚḚ ḛḛ ḜḜ ḝḝ ḞḞ ḟḟ ḠḠ ḡḡ ḢḢ ḣḣ ḤḤ ḥḥ ḦḦ ḧḧ ḨḨ ḩḩ",
    "ḪḪ ḫḫ ḬḬ ḭḭ ḮḮ ḯḯ ḰḰ ḱḱ ḲḲ ḳḳ ḴḴ ḵḵ ḶḶ ḷḷ ḸḸ ḹḹ ḺḺ ḻḻ ḼḼ ḽḽ ḾḾ ḿḿ ṀṀ",
    "ṁṁ ṂṂ ṃṃ ṄṄ ṅṅ ṆṆ ṇṇ ṈṈ ṉṉ ṊṊ ṋṋ ṌṌ ṍṍ ṎṎ ṏṏ ṐṐ ṑṑ ṒṒ ṓṓ ṔṔ ṕṕ ṖṖ ṗṗ",
    "ṘṘ ṙṙ ṚṚ ṛṛ ṜṜ ṝṝ ṞṞ ṟṟ ṠṠ ṡṡ ṢṢ ṣṣ ṤṤ ṥṥ ṦṦ ṧṧ ṨṨ ṩṩ ṪṪ ṫṫ ṬṬ ṭṭ ṮṮ",
    "ṯṯ ṰṰ ṱṱ ṲṲ ṳṳ ṴṴ ṵṵ ṶṶ ṷṷ ṸṸ ṹṹ ṺṺ ṻṻ ṼṼ ṽṽ ṾṾ ṿṿ ẀẀ ẁẁ ẂẂ ẃẃ ẄẄ ẅẅ",
    "ẆẆ ẇẇ ẈẈ ẉẉ ẊẊ ẋẋ ẌẌ ẍẍ ẎẎ ẏẏ ẐẐ ẑẑ ẒẒ ẓẓ ẔẔ ẕẕ ẖẖ ẗẗ ẘẘ ẙẙ ẛẛ ẠẠ ạạ",
    "ẢẢ ảả ẤẤ ấấ ẦẦ ầầ ẨẨ ẩẩ ẪẪ ẫẫ ẬẬ ậậ ẮẮ ắắ ẰẰ ằằ ẲẲ ẳẳ ẴẴ ẵẵ ẶẶ ặặ ẸẸ",
    "ẹẹ ẺẺ ẻẻ ẼẼ ẽẽ ẾẾ ếế ỀỀ ềề ỂỂ ểể ỄỄ ễễ ỆỆ ệệ ỈỈ ỉỉ ỊỊ ịị ỌỌ ọọ ỎỎ ỏỏ",
    "ỐỐ ốố ỒỒ ồồ ỔỔ ổổ ỖỖ ỗỗ ỘỘ ộộ ỚỚ ớớ ỜỜ ờờ ỞỞ ởở ỠỠ ỡỡ ỢỢ ợợ ỤỤ ụụ ỦỦ",
    "ủủ ỨỨ ứứ ỪỪ ừừ ỬỬ ửử ỮỮ ữữ ỰỰ ựự ỲỲ ỳỳ ỴỴ ỵỵ ỶỶ ỷỷ ỸỸ ỹỹ ἀἀ ἁἁ ἂἂ ἃἃ",
    "ἄἄ ἅἅ ἆἆ ἇἇ ἈἈ ἉἉ ἊἊ ἋἋ ἌἌ ἍἍ ἎἎ ἏἏ ἐἐ ἑἑ ἒἒ ἓἓ ἔἔ ἕἕ ἘἘ ἙἙ ἚἚ ἛἛ ἜἜ",
    "ἝἝ ἠἠ ἡἡ ἢἢ ἣἣ ἤἤ ἥἥ ἦἦ ἧἧ ἨἨ ἩἩ ἪἪ ἫἫ ἬἬ ἭἭ ἮἮ ἯἯ ἰἰ ἱἱ ἲἲ ἳἳ ἴἴ ἵἵ",
    "ἶἶ ἷἷ ἸἸ ἹἹ ἺἺ ἻἻ ἼἼ ἽἽ ἾἾ ἿἿ ὀὀ ὁὁ ὂὂ ὃὃ ὄὄ ὅὅ ὈὈ ὉὉ ὊὊ ὋὋ ὌὌ ὍὍ ὐὐ",
    "ὑὑ ὒὒ ὓὓ ὔὔ ὕὕ ὖὖ ὗὗ ὙὙ ὛὛ ὝὝ ὟὟ ὠὠ ὡὡ ὢὢ ὣὣ ὤὤ ὥὥ ὦὦ ὧὧ ὨὨ ὩὩ ὪὪ ὫὫ",
    "ὬὬ ὭὭ ὮὮ ὯὯ ὰὰ ὲὲ ὴὴ ὶὶ ὸὸ ὺὺ ὼὼ ᾀᾀ ᾁᾁ ᾂᾂ ᾃᾃ ᾄᾄ ᾅᾅ ᾆᾆ ᾇᾇ ᾈᾈ ᾉᾉ ᾊᾊ ᾋᾋ",
    "ᾌᾌ ᾍᾍ ᾎᾎ ᾏᾏ ᾐᾐ ᾑᾑ ᾒᾒ ᾓᾓ ᾔᾔ ᾕᾕ ᾖᾖ ᾗᾗ ᾘᾘ ᾙᾙ ᾚᾚ ᾛᾛ ᾜᾜ ᾝᾝ ᾞᾞ ᾟᾟ ᾠᾠ ᾡᾡ ᾢᾢ",
    "ᾣᾣ ᾤᾤ ᾥᾥ ᾦᾦ ᾧᾧ ᾨᾨ ᾩᾩ ᾪᾪ ᾫᾫ ᾬᾬ ᾭᾭ ᾮᾮ ᾯᾯ ᾰᾰ ᾱᾱ ᾲᾲ ᾳᾳ ᾴᾴ ᾶᾶ ᾷᾷ ᾸᾸ ᾹᾹ ᾺᾺ",
    "ᾼᾼ ῁῁ ῂῂ ῃῃ ῄῄ ῆῆ ῇῇ ῈῈ ῊῊ ῌῌ ῍῍ ῎῎ ῏῏ ῐῐ ῑῑ ῒῒ ῖῖ ῗῗ ῘῘ ῙῙ ῚῚ ῝῝ ῞῞",
    "῟῟ ῠῠ ῡῡ ῢῢ ῤῤ ῥῥ ῦῦ ῧῧ ῨῨ ῩῩ ῪῪ ῬῬ ῭῭ ῲῲ ῳῳ ῴῴ ῶῶ ῷῷ ῸῸ ῺῺ ῼῼ ↚↚ ↛↛",
    "↮↮ ⇍⇍ ⇎⇎ ⇏⇏ ∄∄ ∉∉ ∌∌ ∤∤ ∦∦ ≁≁ ≄≄ ≇≇ ≉≉ ≠≠ ≢≢ ≭≭ ≮≮ ≯≯ ≰≰ ≱≱ ≴≴ ≵≵ ≸≸",
    "≹≹ ⊀⊀ ⊁⊁ ⊄⊄ ⊅⊅ ⊈⊈ ⊉⊉ ⊬⊬ ⊭⊭ ⊮⊮ ⊯⊯ ⋠⋠ ⋡⋡ ⋢⋢ ⋣⋣ ⋪⋪ ⋫⋫ ⋬⋬ ⋭⋭ がが ぎぎ ぐぐ げげ",
    "ごご ざざ じじ ずず ぜぜ ぞぞ だだ ぢぢ づづ でで どど ばば ぱぱ びび ぴぴ ぶぶ ぷぷ べべ ぺぺ ぼぼ ぽぽ ゔゔ ゞゞ",
    "ガガ ギギ ググ ゲゲ ゴゴ ザザ ジジ ズズ ゼゼ ゾゾ ダダ ヂヂ ヅヅ デデ ドド ババ パパ ビビ ピピ ブブ ププ ベベ ペペ",
    "ボボ ポポ ヴヴ ヷヷ ヸヸ ヹヹ ヺヺ ヾヾ 𐗉𐗉 𐗤𐗤 𑂚𑂚 𑂜𑂜 𑂫𑂫 𑄮𑄮 𑄯𑄯 𑍋𑍋 𑍌𑍌 𑎃𑎃 𑎅𑎅 𑎎𑎎 𑎑𑎑 𑏅𑏅 𑏇𑏇",
    "𑏈𑏈 𑒻𑒻 𑒼𑒼 𑒾𑒾 𑖺𑖺 𑖻𑖻 𑤸𑤸 𖄡𖄡 𖄢𖄢 𖄣𖄣 𖄤𖄤 𖄥𖄥 𖄦𖄦 𖄧𖄧 𖄨𖄨 𖵨𖵨 𖵩𖵩 𖵪𖵪"]

/-- A character, and the two that it is composed of. -/
structure Composite where
  whole : Char
  first : Char
  second : Char
deriving DecidableEq, Repr

/-- The composite that a word of three characters tells. -/
def Composite.ofWord? (word : String) : Option Composite :=
  match word.toList with
  | [whole, first, second] => some ⟨whole, first, second⟩
  | _ => none

/-- The characters that are composed of two. -/
def composites : List Composite :=
  compositeWords.flatMap fun line => (line.splitOn " ").filterMap Composite.ofWord?

/-- The ranges of the marks in each class. Marks of different classes stand at different places of
a letter, and those of lower classes come first. -/
def markClasses : List (Nat × List (Nat × Nat)) := [
    (1, [(820, 824), (7380, 7380), (7394, 7400), (8402, 8403), (8408, 8410), (8421, 8422),
    (8426, 8427), (68153, 68153), (92912, 92916), (113822, 113822), (119143, 119145)]),
    (6, [(94192, 94193)]),
    (7, [(2364, 2364), (2492, 2492), (2620, 2620), (2748, 2748), (2876, 2876), (3132, 3132),
    (3260, 3260), (4151, 4151), (6964, 6964), (7142, 7142), (7223, 7223), (43443, 43443),
    (69818, 69818), (70003, 70003), (70090, 70090), (70198, 70198), (70377, 70377), (70459, 70460),
    (70726, 70726), (70851, 70851), (71104, 71104), (71351, 71351), (71738, 71738), (72003, 72003),
    (73026, 73026), (125258, 125258)]),
    (8, [(12441, 12442)]),
    (9, [(2381, 2381), (2509, 2509), (2637, 2637), (2765, 2765), (2893, 2893), (3021, 3021),
    (3149, 3149), (3277, 3277), (3387, 3388), (3405, 3405), (3530, 3530), (3642, 3642),
    (3770, 3770), (3972, 3972), (4153, 4154), (5908, 5909), (5940, 5940), (6098, 6098),
    (6752, 6752), (6980, 6980), (7082, 7083), (7154, 7155), (11647, 11647), (43014, 43014),
    (43052, 43052), (43204, 43204), (43347, 43347), (43456, 43456), (43766, 43766), (44013, 44013),
    (68159, 68159), (69702, 69702), (69744, 69744), (69759, 69759), (69817, 69817), (69939, 69940),
    (70080, 70080), (70197, 70197), (70378, 70378), (70477, 70477), (70606, 70608), (70722, 70722),
    (70850, 70850), (71103, 71103), (71231, 71231), (71350, 71350), (71467, 71467), (71737, 71737),
    (71997, 71998), (72160, 72160), (72244, 72244), (72263, 72263), (72345, 72345), (72767, 72767),
    (73028, 73029), (73111, 73111), (73537, 73538), (90415, 90415)]),
    (10, [(1456, 1456)]),
    (11, [(1457, 1457)]),
    (12, [(1458, 1458)]),
    (13, [(1459, 1459)]),
    (14, [(1460, 1460)]),
    (15, [(1461, 1461)]),
    (16, [(1462, 1462)]),
    (17, [(1463, 1463)]),
    (18, [(1464, 1464), (1479, 1479)]),
    (19, [(1465, 1466)]),
    (20, [(1467, 1467)]),
    (21, [(1468, 1468)]),
    (22, [(1469, 1469)]),
    (23, [(1471, 1471)]),
    (24, [(1473, 1473)]),
    (25, [(1474, 1474)]),
    (26, [(64286, 64286)]),
    (27, [(1611, 1611), (2288, 2288)]),
    (28, [(1612, 1612), (2289, 2289)]),
    (29, [(1613, 1613), (2290, 2290)]),
    (30, [(1560, 1560), (1614, 1614)]),
    (31, [(1561, 1561), (1615, 1615)]),
    (32, [(1562, 1562), (1616, 1616)]),
    (33, [(1617, 1617)]),
    (34, [(1618, 1618)]),
    (35, [(1648, 1648)]),
    (36, [(1809, 1809)]),
    (84, [(3157, 3157)]),
    (91, [(3158, 3158)]),
    (103, [(3640, 3641)]),
    (107, [(3656, 3659)]),
    (118, [(3768, 3769)]),
    (122, [(3784, 3787)]),
    (129, [(3953, 3953)]),
    (130, [(3954, 3954), (3962, 3965), (3968, 3968)]),
    (132, [(3956, 3956)]),
    (202, [(801, 802), (807, 808), (7632, 7632)]),
    (214, [(7630, 7630)]),
    (216, [(795, 795), (3897, 3897), (119141, 119142), (119150, 119154)]),
    (218, [(7674, 7674), (12330, 12330)]),
    (220, [(790, 793), (796, 800), (803, 806), (809, 819), (825, 828), (839, 841), (845, 846),
    (851, 854), (857, 858), (1425, 1425), (1430, 1430), (1435, 1435), (1442, 1447), (1450, 1450),
    (1477, 1477), (1621, 1622), (1628, 1628), (1631, 1631), (1763, 1763), (1770, 1770),
    (1773, 1773), (1841, 1841), (1844, 1844), (1847, 1849), (1851, 1852), (1854, 1854),
    (1858, 1858), (1860, 1860), (1862, 1862), (1864, 1864), (2034, 2034), (2045, 2045),
    (2137, 2139), (2201, 2203), (2255, 2259), (2275, 2275), (2278, 2278), (2281, 2281),
    (2285, 2287), (2294, 2294), (2297, 2298), (2386, 2386), (3864, 3865), (3893, 3893),
    (3895, 3895), (4038, 4038), (4237, 4237), (6459, 6459), (6680, 6680), (6783, 6783),
    (6837, 6842), (6845, 6845), (6847, 6848), (6851, 6852), (6858, 6858), (6877, 6877),
    (6886, 6886), (7020, 7020), (7381, 7385), (7388, 7391), (7405, 7405), (7618, 7618),
    (7626, 7626), (7631, 7631), (7673, 7673), (7677, 7677), (7679, 7679), (8424, 8424),
    (8428, 8431), (43307, 43309), (43700, 43700), (65063, 65069), (66045, 66045), (66272, 66272),
    (68109, 68109), (68154, 68154), (68326, 68326), (69370, 69371), (69373, 69375), (69446, 69447),
    (69451, 69451), (69453, 69456), (69507, 69507), (69509, 69509), (119163, 119170),
    (119178, 119179), (124142, 124142), (124399, 124399), (125136, 125142)]),
    (222, [(1434, 1434), (1453, 1453), (6457, 6457), (12333, 12333)]),
    (224, [(12334, 12335)]),
    (226, [(119149, 119149)]),
    (228, [(1454, 1454), (6313, 6313), (7671, 7672), (12331, 12331)]),
    (230, [(768, 788), (829, 838), (842, 844), (848, 850), (855, 855), (859, 859), (867, 879),
    (1155, 1159), (1426, 1429), (1431, 1433), (1436, 1441), (1448, 1449), (1451, 1452),
    (1455, 1455), (1476, 1476), (1552, 1559), (1619, 1620), (1623, 1627), (1629, 1630),
    (1750, 1756), (1759, 1762), (1764, 1764), (1767, 1768), (1771, 1772), (1840, 1840),
    (1842, 1843), (1845, 1846), (1850, 1850), (1853, 1853), (1855, 1857), (1859, 1859),
    (1861, 1861), (1863, 1863), (1865, 1866), (2027, 2033), (2035, 2035), (2070, 2073),
    (2075, 2083), (2085, 2087), (2089, 2093), (2199, 2200), (2204, 2207), (2250, 2254),
    (2260, 2273), (2276, 2277), (2279, 2280), (2282, 2284), (2291, 2293), (2295, 2296),
    (2299, 2303), (2385, 2385), (2387, 2388), (2558, 2558), (3970, 3971), (3974, 3975),
    (4957, 4959), (6109, 6109), (6458, 6458), (6679, 6679), (6773, 6780), (6832, 6836),
    (6843, 6844), (6849, 6850), (6853, 6857), (6859, 6876), (6880, 6885), (6887, 6890),
    (7019, 7019), (7021, 7027), (7376, 7378), (7386, 7387), (7392, 7392), (7412, 7412),
    (7416, 7417), (7616, 7617), (7619, 7625), (7627, 7628), (7633, 7669), (7675, 7675),
    (7678, 7678), (8400, 8401), (8404, 8407), (8411, 8412), (8417, 8417), (8423, 8423),
    (8425, 8425), (8432, 8432), (11503, 11505), (11744, 11775), (42607, 42607), (42612, 42621),
    (42654, 42655), (42736, 42737), (43232, 43249), (43696, 43696), (43698, 43699), (43703, 43704),
    (43710, 43711), (43713, 43713), (65056, 65062), (65070, 65071), (66422, 66426), (68111, 68111),
    (68152, 68152), (68325, 68325), (68900, 68903), (68969, 68973), (69291, 69292), (69448, 69450),
    (69452, 69452), (69506, 69506), (69508, 69508), (69888, 69890), (70502, 70516), (70750, 70750),
    (92976, 92982), (119173, 119177), (119210, 119213), (119362, 119364), (122880, 123023),
    (123184, 123190), (123566, 123566), (123628, 123631), (124143, 124143), (124398, 124398),
    (124643, 124643), (124646, 124646), (124654, 124655), (124661, 124661), (125252, 125257)]),
    (232, [(789, 789), (794, 794), (856, 856), (7670, 7670), (12332, 12332), (124140, 124141)]),
    (233, [(860, 860), (863, 863), (866, 866), (7676, 7676)]),
    (234, [(861, 862), (864, 865), (6891, 6891), (7629, 7629)])]

/-- The class of a mark, and zero for everything else. -/
def markClass (c : Char) : Nat :=
  match markClasses.find? fun entry => inRanges c.toNat entry.2 with
  | some entry => entry.1
  | none => 0

/-- The mark under a letter that takes away its vowel. -/
def isVirama (c : Char) : Bool := markClass c = 9

/-! ## Syllables -/

/-- The first of the Korean syllables, each of which has a number: one of 19 initial consonants,
one of 21 vowels and perhaps one of 27 final consonants. -/
def firstSyllable : Nat := 0xAC00

/-- The initial consonants are counted from here. -/
def firstInitial : Nat := 0x1100

/-- The vowels are counted from here. -/
def firstVowel : Nat := 0x1161

/-- The final consonants are counted from here; the one with number zero is none. -/
def firstFinal : Nat := 0x11A7

/-- The two parts of a syllable. -/
def splitSyllable? (n : Nat) : Option (Char × Char) :=
  if firstSyllable ≤ n ∧ n < firstSyllable + 19 * 21 * 28 then
    let k := n - firstSyllable
    if k % 28 = 0 then
      some (Char.ofNat (firstInitial + k / 588), Char.ofNat (firstVowel + k % 588 / 28))
    else some (Char.ofNat (n - k % 28), Char.ofNat (firstFinal + k % 28))
  else none

/-- The syllable of two parts. -/
def joinSyllable? (a b : Nat) : Option Char :=
  if firstInitial ≤ a ∧ a < firstInitial + 19 ∧ firstVowel ≤ b ∧ b < firstVowel + 21 then
    some (Char.ofNat (firstSyllable + ((a - firstInitial) * 21 + (b - firstVowel)) * 28))
  else if firstSyllable ≤ a ∧ a < firstSyllable + 19 * 21 * 28 ∧ (a - firstSyllable) % 28 = 0
      ∧ firstFinal < b ∧ b < firstFinal + 28 then
    some (Char.ofNat (a + (b - firstFinal)))
  else none

/-! ## Composing -/

/-- The two characters that a character is composed of. -/
def split? (c : Char) : Option (Char × Char) :=
  match splitSyllable? c.toNat with
  | some parts => some parts
  | none => (composites.find? fun e => e.whole = c).map fun e => (e.first, e.second)

/-- The character that two are composed to. -/
def join? (a b : Char) : Option Char :=
  match joinSyllable? a.toNat b.toNat with
  | some c => some c
  | none => (composites.find? fun e => e.first = a && e.second = b).map Composite.whole

/-- The parts of a character, as far as it is taken apart in so many steps. -/
def parts : Nat → Char → List Char
  | 0, c => [c]
  | steps + 1, c =>
    match split? c with
    | some (first, second) => parts steps first ++ [second]
    | none => [c]

/-- How often a character can be taken apart. -/
def deepest : Nat := 4

/-- Puts a character behind others, which are given last first. A mark goes before the marks of
higher classes. -/
def place (c : Char) : List Char → List Char
  | [] => [c]
  | d :: rest =>
    if markClass c ≠ 0 ∧ markClass c < markClass d then d :: place c rest else c :: d :: rest

/-- The text in its parts, with the marks in order. -/
def decompose (s : List Char) : List Char :=
  ((s.flatMap (parts deepest)).foldl (fun placed c => place c placed) []).reverse

/-- Composes a letter, if there is one yet, with what follows. The marks that could not be joined
to it are given last first. -/
def composeFrom : Option Char → List Char → List Char → List Char
  | letter?, marks, [] => letter?.toList ++ marks.reverse
  | none, marks, c :: s =>
    if markClass c = 0 then marks.reverse ++ composeFrom (some c) [] s
    else composeFrom none (c :: marks) s
  | some letter, marks, c :: s =>
    let isNext := marks.head?.all fun d => markClass d < markClass c
    match if isNext then join? letter c else none with
    | some whole => composeFrom (some whole) marks s
    | none =>
      if markClass c = 0 then letter :: (marks.reverse ++ composeFrom (some c) [] s)
      else composeFrom (some letter) (c :: marks) s

/-- The text with all letters and marks composed. -/
def compose (s : List Char) : List Char := composeFrom none [] (decompose s)

/-- Composing changes nothing. -/
def isComposed (s : List Char) : Bool := compose s = s

end Failsafe.Text
