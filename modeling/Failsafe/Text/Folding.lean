import Failsafe.Text.Case
import Failsafe.Text.Mark
/-
  The characters that stand for others in a name.

  Names are the same if their folded forms are: there are no capitals, and letters of another
  width, style or shape are ordinary letters. Some characters do not count at all, and some cannot
  be part of any name.
-/

namespace Failsafe.Text

/-- Words of a character and what it stands for. -/
def foldedWords : List String := [
    "ªa ²2 ³3 µμ ¹1 ºo ¼1⁄4 ½1⁄2 ¾3⁄4 Ĳij ĳij Ŀl· ŀl· ŉʼn ſs Ǆdž ǅdž ǆdž Ǉlj ǈlj ǉlj Ǌnj ǋnj ǌnj",
    "Ǳdz ǲdz ǳdz ʰh ʱɦ ʲj ʳr ʴɹ ʵɻ ʶʁ ʷw ʸy ˠɣ ˡl ˢs ˣx ˤʕ ̀̀ ́́ ̓̓ ̈́̈́ ͅι ʹʹ ;; ·· ϐβ ϑθ ϒυ ϓύ",
    "ϔϋ ϕφ ϖπ ϰκ ϱρ ϲσ ϵε Ϲσ ևեւ ٵاٴ ٶوٴ ٷۇٴ ٸيٴ क़क़ ख़ख़ ग़ग़ ज़ज़ ड़ड़ ढ़ढ़ फ़फ़ य़य़ ড়ড় ঢ়ঢ় য়য় ਲ਼ਲ਼",
    "ਸ਼ਸ਼ ਖ਼ਖ਼ ਗ਼ਗ਼ ਜ਼ਜ਼ ਫ਼ਫ਼ ଡ଼ଡ଼ ଢ଼ଢ଼ ำํา ຳໍາ ໜຫນ ໝຫມ ༌་ གྷགྷ ཌྷཌྷ དྷདྷ བྷབྷ ཛྷཛྷ ཀྵཀྵ ཱཱིི ཱཱུུ ྲྀྲྀ ཷྲཱྀ ླྀླྀ",
    "ཹླཱྀ ཱཱྀྀ ྒྷྒྷ ྜྷྜྷ ྡྷྡྷ ྦྷྦྷ ྫྷྫྷ ྐྵྐྵ ჼნ ᏸᏰ ᏹᏱ ᏺᏲ ᏻᏳ ᏼᏴ ᏽᏵ ᲀв ᲁд ᲂо ᲃс ᲄт ᲅт ᲆъ ᲇѣ ᲈꙋ ᴬa ᴭæ ᴮb ᴰd",
    "ᴱe ᴲǝ ᴳg ᴴh ᴵi ᴶj ᴷk ᴸl ᴹm ᴺn ᴼo ᴽȣ ᴾp ᴿr ᵀt ᵁu ᵂw ᵃa ᵄɐ ᵅɑ ᵆᴂ ᵇb ᵈd ᵉe ᵊə ᵋɛ ᵌɜ ᵍg ᵏk ᵐm ᵑŋ",
    "ᵒo ᵓɔ ᵔᴖ ᵕᴗ ᵖp ᵗt ᵘu ᵙᴝ ᵚɯ ᵛv ᵜᴥ ᵝβ ᵞγ ᵟδ ᵠφ ᵡχ ᵢi ᵣr ᵤu ᵥv ᵦβ ᵧγ ᵨρ ᵩφ ᵪχ ᵸн ᶛɒ ᶜc ᶝɕ ᶞð ᶟɜ",
    "ᶠf ᶡɟ ᶢɡ ᶣɥ ᶤɨ ᶥɩ ᶦɪ ᶧᵻ ᶨʝ ᶩɭ ᶪᶅ ᶫʟ ᶬɱ ᶭɰ ᶮɲ ᶯɳ ᶰɴ ᶱɵ ᶲɸ ᶳʂ ᶴʃ ᶵƫ ᶶʉ ᶷʊ ᶸᴜ ᶹʋ ᶺʌ ᶻz ᶼʐ ᶽʑ ᶾʒ",
    "ᶿθ ẚaʾ ẛṡ άά έέ ήή ίί όό ύύ ώώ ᾀἀι ᾁἁι ᾂἂι ᾃἃι ᾄἄι ᾅἅι ᾆἆι ᾇἇι ᾈἀι ᾉἁι ᾊἂι ᾋἃι ᾌἄι ᾍἅι ᾎἆι",
    "ᾏἇι ᾐἠι ᾑἡι ᾒἢι ᾓἣι ᾔἤι ᾕἥι ᾖἦι ᾗἧι ᾘἠι ᾙἡι ᾚἢι ᾛἣι ᾜἤι ᾝἥι ᾞἦι ᾟἧι ᾠὠι ᾡὡι ᾢὢι ᾣὣι ᾤὤι ᾥὥι",
    "ᾦὦι ᾧὧι ᾨὠι ᾩὡι ᾪὢι ᾫὣι ᾬὤι ᾭὥι ᾮὦι ᾯὧι ᾲὰι ᾳαι ᾴάι ᾷᾶι Άά ᾼαι ιι ῂὴι ῃηι ῄήι ῇῆι Έέ Ήή ῌηι",
    "ΐΐ Ίί ΰΰ Ύύ `` ῲὼι ῳωι ῴώι ῷῶι Όό Ώώ ῼωι ‑‐ ″′′ ‴′′′ ‶‵‵ ‷‵‵‵ ‼!! ⁇?? ⁈?! ⁉!? ⁗′′′′ ⁰0 ⁱi ⁴4",
    "⁵5 ⁶6 ⁷7 ⁸8 ⁹9 ⁺+ ⁻− ⁼= ⁽( ⁾) ⁿn ₀0 ₁1 ₂2 ₃3 ₄4 ₅5 ₆6 ₇7 ₈8 ₉9 ₊+ ₋− ₌= ₍( ₎) ₐa ₑe ₒo ₓx ₔə",
    "ₕh ₖk ₗl ₘm ₙn ₚp ₛs ₜt ₨rs ℀a/c ℁a/s ℂc ℃°c ℅c/o ℆c/u ℇɛ ℉°f ℊg ℋh ℌh ℍh ℎh ℏħ ℐi ℑi ℒl ℓl",
    "ℕn №no ℙp ℚq ℛr ℜr ℝr ℠sm ℡tel ™tm ℤz ℨz ℬb ℭc ℯe ℰe ℱf ℳm ℴo ℵא ℶב ℷג ℸד ℹi ℻fax ℼπ ℽγ ℾγ",
    "ℿπ ⅀∑ ⅅd ⅆd ⅇe ⅈi ⅉj ⅐1⁄7 ⅑1⁄9 ⅒1⁄10 ⅓1⁄3 ⅔2⁄3 ⅕1⁄5 ⅖2⁄5 ⅗3⁄5 ⅘4⁄5 ⅙1⁄6 ⅚5⁄6 ⅛1⁄8 ⅜3⁄8 ⅝5⁄8",
    "⅞7⁄8 ⅟1⁄ Ⅰi Ⅱii Ⅲiii Ⅳiv Ⅴv Ⅵvi Ⅶvii Ⅷviii Ⅸix Ⅹx Ⅺxi Ⅻxii Ⅼl Ⅽc Ⅾd Ⅿm ⅰi ⅱii ⅲiii ⅳiv ⅴv",
    "ⅵvi ⅶvii ⅷviii ⅸix ⅹx ⅺxi ⅻxii ⅼl ⅽc ⅾd ⅿm ↉0⁄3 ∬∫∫ ∭∫∫∫ ∯∮∮ ∰∮∮∮ 〈〈 〉〉 ①1 ②2 ③3 ④4 ⑤5 ⑥6 ⑦7",
    "⑧8 ⑨9 ⑩10 ⑪11 ⑫12 ⑬13 ⑭14 ⑮15 ⑯16 ⑰17 ⑱18 ⑲19 ⑳20 ⑴(1) ⑵(2) ⑶(3) ⑷(4) ⑸(5) ⑹(6) ⑺(7) ⑻(8)",
    "⑼(9) ⑽(10) ⑾(11) ⑿(12) ⒀(13) ⒁(14) ⒂(15) ⒃(16) ⒄(17) ⒅(18) ⒆(19) ⒇(20) ⒜(a) ⒝(b) ⒞(c) ⒟(d)",
    "⒠(e) ⒡(f) ⒢(g) ⒣(h) ⒤(i) ⒥(j) ⒦(k) ⒧(l) ⒨(m) ⒩(n) ⒪(o) ⒫(p) ⒬(q) ⒭(r) ⒮(s) ⒯(t) ⒰(u) ⒱(v)",
    "⒲(w) ⒳(x) ⒴(y) ⒵(z) Ⓐa Ⓑb Ⓒc Ⓓd Ⓔe Ⓕf Ⓖg Ⓗh Ⓘi Ⓙj Ⓚk Ⓛl Ⓜm Ⓝn Ⓞo Ⓟp Ⓠq Ⓡr Ⓢs Ⓣt Ⓤu Ⓥv Ⓦw Ⓧx",
    "Ⓨy Ⓩz ⓐa ⓑb ⓒc ⓓd ⓔe ⓕf ⓖg ⓗh ⓘi ⓙj ⓚk ⓛl ⓜm ⓝn ⓞo ⓟp ⓠq ⓡr ⓢs ⓣt ⓤu ⓥv ⓦw ⓧx ⓨy ⓩz ⓪0 ⨌∫∫∫∫",
    "⩴::= ⩵== ⩶=== ⫝̸⫝̸ ⱼj ⱽv ⵯⵡ ⺟母 ⻳龟 ⼀一 ⼁丨 ⼂丶 ⼃丿 ⼄乙 ⼅亅 ⼆二 ⼇亠 ⼈人 ⼉儿 ⼊入 ⼋八 ⼌冂 ⼍冖 ⼎冫 ⼏几 ⼐凵 ⼑刀 ⼒力 ⼓勹",
    "⼔匕 ⼕匚 ⼖匸 ⼗十 ⼘卜 ⼙卩 ⼚厂 ⼛厶 ⼜又 ⼝口 ⼞囗 ⼟土 ⼠士 ⼡夂 ⼢夊 ⼣夕 ⼤大 ⼥女 ⼦子 ⼧宀 ⼨寸 ⼩小 ⼪尢 ⼫尸 ⼬屮 ⼭山 ⼮巛 ⼯工 ⼰己 ⼱巾 ⼲干",
    "⼳幺 ⼴广 ⼵廴 ⼶廾 ⼷弋 ⼸弓 ⼹彐 ⼺彡 ⼻彳 ⼼心 ⼽戈 ⼾戶 ⼿手 ⽀支 ⽁攴 ⽂文 ⽃斗 ⽄斤 ⽅方 ⽆无 ⽇日 ⽈曰 ⽉月 ⽊木 ⽋欠 ⽌止 ⽍歹 ⽎殳 ⽏毋 ⽐比 ⽑毛",
    "⽒氏 ⽓气 ⽔水 ⽕火 ⽖爪 ⽗父 ⽘爻 ⽙爿 ⽚片 ⽛牙 ⽜牛 ⽝犬 ⽞玄 ⽟玉 ⽠瓜 ⽡瓦 ⽢甘 ⽣生 ⽤用 ⽥田 ⽦疋 ⽧疒 ⽨癶 ⽩白 ⽪皮 ⽫皿 ⽬目 ⽭矛 ⽮矢 ⽯石 ⽰示",
    "⽱禸 ⽲禾 ⽳穴 ⽴立 ⽵竹 ⽶米 ⽷糸 ⽸缶 ⽹网 ⽺羊 ⽻羽 ⽼老 ⽽而 ⽾耒 ⽿耳 ⾀聿 ⾁肉 ⾂臣 ⾃自 ⾄至 ⾅臼 ⾆舌 ⾇舛 ⾈舟 ⾉艮 ⾊色 ⾋艸 ⾌虍 ⾍虫 ⾎血 ⾏行",
    "⾐衣 ⾑襾 ⾒見 ⾓角 ⾔言 ⾕谷 ⾖豆 ⾗豕 ⾘豸 ⾙貝 ⾚赤 ⾛走 ⾜足 ⾝身 ⾞車 ⾟辛 ⾠辰 ⾡辵 ⾢邑 ⾣酉 ⾤釆 ⾥里 ⾦金 ⾧長 ⾨門 ⾩阜 ⾪隶 ⾫隹 ⾬雨 ⾭靑 ⾮非",
    "⾯面 ⾰革 ⾱韋 ⾲韭 ⾳音 ⾴頁 ⾵風 ⾶飛 ⾷食 ⾸首 ⾹香 ⾺馬 ⾻骨 ⾼高 ⾽髟 ⾾鬥 ⾿鬯 ⿀鬲 ⿁鬼 ⿂魚 ⿃鳥 ⿄鹵 ⿅鹿 ⿆麥 ⿇麻 ⿈黃 ⿉黍 ⿊黑 ⿋黹 ⿌黽 ⿍鼎",
    "⿎鼓 ⿏鼠 ⿐鼻 ⿑齊 ⿒齒 ⿓龍 ⿔龜 ⿕龠 。. 〶〒 〸十 〹卄 〺卅 ゟより ヿコト ㄱᄀ ㄲᄁ ㄳᆪ ㄴᄂ ㄵᆬ ㄶᆭ ㄷᄃ ㄸᄄ ㄹᄅ ㄺᆰ ㄻᆱ ㄼᆲ ㄽᆳ ㄾᆴ ㄿᆵ",
    "ㅀᄚ ㅁᄆ ㅂᄇ ㅃᄈ ㅄᄡ ㅅᄉ ㅆᄊ ㅇᄋ ㅈᄌ ㅉᄍ ㅊᄎ ㅋᄏ ㅌᄐ ㅍᄑ ㅎᄒ ㅏᅡ ㅐᅢ ㅑᅣ ㅒᅤ ㅓᅥ ㅔᅦ ㅕᅧ ㅖᅨ ㅗᅩ ㅘᅪ ㅙᅫ ㅚᅬ ㅛᅭ ㅜᅮ ㅝᅯ ㅞᅰ",
    "ㅟᅱ ㅠᅲ ㅡᅳ ㅢᅴ ㅣᅵ ㅥᄔ ㅦᄕ ㅧᇇ ㅨᇈ ㅩᇌ ㅪᇎ ㅫᇓ ㅬᇗ ㅭᇙ ㅮᄜ ㅯᇝ ㅰᇟ ㅱᄝ ㅲᄞ ㅳᄠ ㅴᄢ ㅵᄣ ㅶᄧ ㅷᄩ ㅸᄫ ㅹᄬ ㅺᄭ ㅻᄮ ㅼᄯ ㅽᄲ ㅾᄶ",
    "ㅿᅀ ㆀᅇ ㆁᅌ ㆂᇱ ㆃᇲ ㆄᅗ ㆅᅘ ㆆᅙ ㆇᆄ ㆈᆅ ㆉᆈ ㆊᆑ ㆋᆒ ㆌᆔ ㆍᆞ ㆎᆡ ㆒一 ㆓二 ㆔三 ㆕四 ㆖上 ㆗中 ㆘下 ㆙甲 ㆚乙 ㆛丙 ㆜丁 ㆝天 ㆞地 ㆟人",
    "㈀(ᄀ) ㈁(ᄂ) ㈂(ᄃ) ㈃(ᄅ) ㈄(ᄆ) ㈅(ᄇ) ㈆(ᄉ) ㈇(ᄋ) ㈈(ᄌ) ㈉(ᄎ) ㈊(ᄏ) ㈋(ᄐ) ㈌(ᄑ) ㈍(ᄒ) ㈎(가) ㈏(나) ㈐(다) ㈑(라)",
    "㈒(마) ㈓(바) ㈔(사) ㈕(아) ㈖(자) ㈗(차) ㈘(카) ㈙(타) ㈚(파) ㈛(하) ㈜(주) ㈝(오전) ㈞(오후) ㈠(一) ㈡(二) ㈢(三) ㈣(四) ㈤(五)",
    "㈥(六) ㈦(七) ㈧(八) ㈨(九) ㈩(十) ㈪(月) ㈫(火) ㈬(水) ㈭(木) ㈮(金) ㈯(土) ㈰(日) ㈱(株) ㈲(有) ㈳(社) ㈴(名) ㈵(特) ㈶(財)",
    "㈷(祝) ㈸(労) ㈹(代) ㈺(呼) ㈻(学) ㈼(監) ㈽(企) ㈾(資) ㈿(協) ㉀(祭) ㉁(休) ㉂(自) ㉃(至) ㉄問 ㉅幼 ㉆文 ㉇箏 ㉐pte ㉑21 ㉒22",
    "㉓23 ㉔24 ㉕25 ㉖26 ㉗27 ㉘28 ㉙29 ㉚30 ㉛31 ㉜32 ㉝33 ㉞34 ㉟35 ㉠ᄀ ㉡ᄂ ㉢ᄃ ㉣ᄅ ㉤ᄆ ㉥ᄇ ㉦ᄉ ㉧ᄋ ㉨ᄌ ㉩ᄎ ㉪ᄏ ㉫ᄐ ㉬ᄑ",
    "㉭ᄒ ㉮가 ㉯나 ㉰다 ㉱라 ㉲마 ㉳바 ㉴사 ㉵아 ㉶자 ㉷차 ㉸카 ㉹타 ㉺파 ㉻하 ㉼참고 ㉽주의 ㉾우 ㊀一 ㊁二 ㊂三 ㊃四 ㊄五 ㊅六 ㊆七 ㊇八 ㊈九 ㊉十 ㊊月 ㊋火",
    "㊌水 ㊍木 ㊎金 ㊏土 ㊐日 ㊑株 ㊒有 ㊓社 ㊔名 ㊕特 ㊖財 ㊗祝 ㊘労 ㊙秘 ㊚男 ㊛女 ㊜適 ㊝優 ㊞印 ㊟注 ㊠項 ㊡休 ㊢写 ㊣正 ㊤上 ㊥中 ㊦下 ㊧左 ㊨右 ㊩医 ㊪宗",
    "㊫学 ㊬監 ㊭企 ㊮資 ㊯協 ㊰夜 ㊱36 ㊲37 ㊳38 ㊴39 ㊵40 ㊶41 ㊷42 ㊸43 ㊹44 ㊺45 ㊻46 ㊼47 ㊽48 ㊾49 ㊿50 ㋀1月 ㋁2月 ㋂3月",
    "㋃4月 ㋄5月 ㋅6月 ㋆7月 ㋇8月 ㋈9月 ㋉10月 ㋊11月 ㋋12月 ㋌hg ㋍erg ㋎ev ㋏ltd ㋐ア ㋑イ ㋒ウ ㋓エ ㋔オ ㋕カ ㋖キ ㋗ク ㋘ケ ㋙コ ㋚サ ㋛シ",
    "㋜ス ㋝セ ㋞ソ ㋟タ ㋠チ ㋡ツ ㋢テ ㋣ト ㋤ナ ㋥ニ ㋦ヌ ㋧ネ ㋨ノ ㋩ハ ㋪ヒ ㋫フ ㋬ヘ ㋭ホ ㋮マ ㋯ミ ㋰ム ㋱メ ㋲モ ㋳ヤ ㋴ユ ㋵ヨ ㋶ラ ㋷リ ㋸ル ㋹レ ㋺ロ",
    "㋻ワ ㋼ヰ ㋽ヱ ㋾ヲ ㋿令和 ㌀アパート ㌁アルファ ㌂アンペア ㌃アール ㌄イニング ㌅インチ ㌆ウォン ㌇エスクード ㌈エーカー ㌉オンス ㌊オーム ㌋カイリ ㌌カラット",
    "㌍カロリー ㌎ガロン ㌏ガンマ ㌐ギガ ㌑ギニー ㌒キュリー ㌓ギルダー ㌔キロ ㌕キログラム ㌖キロメートル ㌗キロワット ㌘グラム ㌙グラムトン ㌚クルゼイロ ㌛クローネ ㌜ケース",
    "㌝コルナ ㌞コーポ ㌟サイクル ㌠サンチーム ㌡シリング ㌢センチ ㌣セント ㌤ダース ㌥デシ ㌦ドル ㌧トン ㌨ナノ ㌩ノット ㌪ハイツ ㌫パーセント ㌬パーツ ㌭バーレル",
    "㌮ピアストル ㌯ピクル ㌰ピコ ㌱ビル ㌲ファラッド ㌳フィート ㌴ブッシェル ㌵フラン ㌶ヘクタール ㌷ペソ ㌸ペニヒ ㌹ヘルツ ㌺ペンス ㌻ページ ㌼ベータ ㌽ポイント ㌾ボルト",
    "㌿ホン ㍀ポンド ㍁ホール ㍂ホーン ㍃マイクロ ㍄マイル ㍅マッハ ㍆マルク ㍇マンション ㍈ミクロン ㍉ミリ ㍊ミリバール ㍋メガ ㍌メガトン ㍍メートル ㍎ヤード ㍏ヤール",
    "㍐ユアン ㍑リットル ㍒リラ ㍓ルピー ㍔ルーブル ㍕レム ㍖レントゲン ㍗ワット ㍘0点 ㍙1点 ㍚2点 ㍛3点 ㍜4点 ㍝5点 ㍞6点 ㍟7点 ㍠8点 ㍡9点 ㍢10点 ㍣11点",
    "㍤12点 ㍥13点 ㍦14点 ㍧15点 ㍨16点 ㍩17点 ㍪18点 ㍫19点 ㍬20点 ㍭21点 ㍮22点 ㍯23点 ㍰24点 ㍱hpa ㍲da ㍳au ㍴bar ㍵ov ㍶pc",
    "㍷dm ㍸dm2 ㍹dm3 ㍺iu ㍻平成 ㍼昭和 ㍽大正 ㍾明治 ㍿株式会社 ㎀pa ㎁na ㎂μa ㎃ma ㎄ka ㎅kb ㎆mb ㎇gb ㎈cal ㎉kcal ㎊pf ㎋nf",
    "㎌μf ㎍μg ㎎mg ㎏kg ㎐hz ㎑khz ㎒mhz ㎓ghz ㎔thz ㎕μl ㎖ml ㎗dl ㎘kl ㎙fm ㎚nm ㎛μm ㎜mm ㎝cm ㎞km ㎟mm2 ㎠cm2",
    "㎡m2 ㎢km2 ㎣mm3 ㎤cm3 ㎥m3 ㎦km3 ㎧m∕s ㎨m∕s2 ㎩pa ㎪kpa ㎫mpa ㎬gpa ㎭rad ㎮rad∕s ㎯rad∕s2 ㎰ps ㎱ns ㎲μs",
    "㎳ms ㎴pv ㎵nv ㎶μv ㎷mv ㎸kv ㎹mv ㎺pw ㎻nw ㎼μw ㎽mw ㎾kw ㎿mw ㏀kω ㏁mω ㏃bq ㏄cc ㏅cd ㏆c∕kg ㏈db ㏉gy ㏊ha",
    "㏋hp ㏌in ㏍kk ㏎km ㏏kt ㏐lm ㏑ln ㏒log ㏓lx ㏔mb ㏕mil ㏖mol ㏗ph ㏙ppm ㏚pr ㏛sr ㏜sv ㏝wb ㏞v∕m ㏟a∕m ㏠1日",
    "㏡2日 ㏢3日 ㏣4日 ㏤5日 ㏥6日 ㏦7日 ㏧8日 ㏨9日 ㏩10日 ㏪11日 ㏫12日 ㏬13日 ㏭14日 ㏮15日 ㏯16日 ㏰17日 ㏱18日 ㏲19日 ㏳20日 ㏴21日",
    "㏵22日 ㏶23日 ㏷24日 ㏸25日 ㏹26日 ㏺27日 ㏻28日 ㏼29日 ㏽30日 ㏾31日 ㏿gal ꚜъ ꚝь ꝰꝯ ꟱s ꟲc ꟳf ꟴq ꟸħ ꟹœ ꭜꜧ ꭝꬷ ꭞɫ",
    "ꭟꭒ ꭩʍ ꭰᎠ ꭱᎡ ꭲᎢ ꭳᎣ ꭴᎤ ꭵᎥ ꭶᎦ ꭷᎧ ꭸᎨ ꭹᎩ ꭺᎪ ꭻᎫ ꭼᎬ ꭽᎭ ꭾᎮ ꭿᎯ ꮀᎰ ꮁᎱ ꮂᎲ ꮃᎳ ꮄᎴ ꮅᎵ ꮆᎶ ꮇᎷ ꮈᎸ ꮉᎹ ꮊᎺ ꮋᎻ ꮌᎼ",
    "ꮍᎽ ꮎᎾ ꮏᎿ ꮐᏀ ꮑᏁ ꮒᏂ ꮓᏃ ꮔᏄ ꮕᏅ ꮖᏆ ꮗᏇ ꮘᏈ ꮙᏉ ꮚᏊ ꮛᏋ ꮜᏌ ꮝᏍ ꮞᏎ ꮟᏏ ꮠᏐ ꮡᏑ ꮢᏒ ꮣᏓ ꮤᏔ ꮥᏕ ꮦᏖ ꮧᏗ ꮨᏘ ꮩᏙ ꮪᏚ ꮫᏛ",
    "ꮬᏜ ꮭᏝ ꮮᏞ ꮯᏟ ꮰᏠ ꮱᏡ ꮲᏢ ꮳᏣ ꮴᏤ ꮵᏥ ꮶᏦ ꮷᏧ ꮸᏨ ꮹᏩ ꮺᏪ ꮻᏫ ꮼᏬ ꮽᏭ ꮾᏮ ꮿᏯ 豈豈 更更 車車 賈賈 滑滑 串串 句句 龜龜 龜龜 契契 金金",
    "喇喇 奈奈 懶懶 癩癩 羅羅 蘿蘿 螺螺 裸裸 邏邏 樂樂 洛洛 烙烙 珞珞 落落 酪酪 駱駱 亂亂 卵卵 欄欄 爛爛 蘭蘭 鸞鸞 嵐嵐 濫濫 藍藍 襤襤 拉拉 臘臘 蠟蠟 廊廊 朗朗",
    "浪浪 狼狼 郎郎 來來 冷冷 勞勞 擄擄 櫓櫓 爐爐 盧盧 老老 蘆蘆 虜虜 路路 露露 魯魯 鷺鷺 碌碌 祿祿 綠綠 菉菉 錄錄 鹿鹿 論論 壟壟 弄弄 籠籠 聾聾 牢牢 磊磊 賂賂",
    "雷雷 壘壘 屢屢 樓樓 淚淚 漏漏 累累 縷縷 陋陋 勒勒 肋肋 凜凜 凌凌 稜稜 綾綾 菱菱 陵陵 讀讀 拏拏 樂樂 諾諾 丹丹 寧寧 怒怒 率率 異異 北北 磻磻 便便 復復 不不",
    "泌泌 數數 索索 參參 塞塞 省省 葉葉 說說 殺殺 辰辰 沈沈 拾拾 若若 掠掠 略略 亮亮 兩兩 凉凉 梁梁 糧糧 良良 諒諒 量量 勵勵 呂呂 女女 廬廬 旅旅 濾濾 礪礪 閭閭",
    "驪驪 麗麗 黎黎 力力 曆曆 歷歷 轢轢 年年 憐憐 戀戀 撚撚 漣漣 煉煉 璉璉 秊秊 練練 聯聯 輦輦 蓮蓮 連連 鍊鍊 列列 劣劣 咽咽 烈烈 裂裂 說說 廉廉 念念 捻捻 殮殮",
    "簾簾 獵獵 令令 囹囹 寧寧 嶺嶺 怜怜 玲玲 瑩瑩 羚羚 聆聆 鈴鈴 零零 靈靈 領領 例例 禮禮 醴醴 隸隸 惡惡 了了 僚僚 寮寮 尿尿 料料 樂樂 燎燎 療療 蓼蓼 遼遼 龍龍",
    "暈暈 阮阮 劉劉 杻杻 柳柳 流流 溜溜 琉琉 留留 硫硫 紐紐 類類 六六 戮戮 陸陸 倫倫 崙崙 淪淪 輪輪 律律 慄慄 栗栗 率率 隆隆 利利 吏吏 履履 易易 李李 梨梨 泥泥",
    "理理 痢痢 罹罹 裏裏 裡裡 里里 離離 匿匿 溺溺 吝吝 燐燐 璘璘 藺藺 隣隣 鱗鱗 麟麟 林林 淋淋 臨臨 立立 笠笠 粒粒 狀狀 炙炙 識識 什什 茶茶 刺刺 切切 度度 拓拓",
    "糖糖 宅宅 洞洞 暴暴 輻輻 行行 降降 見見 廓廓 兀兀 嗀嗀 塚塚 晴晴 凞凞 猪猪 益益 礼礼 神神 祥祥 福福 靖靖 精精 羽羽 蘒蘒 諸諸 逸逸 都都 飯飯 飼飼 館館 鶴鶴",
    "郞郞 隷隷 侮侮 僧僧 免免 勉勉 勤勤 卑卑 喝喝 嘆嘆 器器 塀塀 墨墨 層層 屮屮 悔悔 慨慨 憎憎 懲懲 敏敏 既既 暑暑 梅梅 海海 渚渚 漢漢 煮煮 爫爫 琢琢 碑碑 社社",
    "祉祉 祈祈 祐祐 祖祖 祝祝 禍禍 禎禎 穀穀 突突 節節 練練 縉縉 繁繁 署署 者者 臭臭 艹艹 艹艹 著著 褐褐 視視 謁謁 謹謹 賓賓 贈贈 辶辶 逸逸 難難 響響 頻頻 恵恵",
    "𤋮𤋮 舘舘 並並 况况 全全 侀侀 充充 冀冀 勇勇 勺勺 喝喝 啕啕 喙喙 嗢嗢 塚塚 墳墳 奄奄 奔奔 婢婢 嬨嬨 廒廒 廙廙 彩彩 徭徭 惘惘 慎慎 愈愈 憎憎 慠慠 懲懲 戴戴",
    "揄揄 搜搜 摒摒 敖敖 晴晴 朗朗 望望 杖杖 歹歹 殺殺 流流 滛滛 滋滋 漢漢 瀞瀞 煮煮 瞧瞧 爵爵 犯犯 猪猪 瑱瑱 甆甆 画画 瘝瘝 瘟瘟 益益 盛盛 直直 睊睊 着着 磌磌",
    "窱窱 節節 类类 絛絛 練練 缾缾 者者 荒荒 華華 蝹蝹 襁襁 覆覆 視視 調調 諸諸 請請 謁謁 諾諾 諭諭 謹謹 變變 贈贈 輸輸 遲遲 醙醙 鉶鉶 陼陼 難難 靖靖 韛韛 響響",
    "頋頋 頻頻 鬒鬒 龜龜 𢡊𢡊 𢡄𢡄 𣏕𣏕 㮝㮝 䀘䀘 䀹䀹 𥉉𥉉 𥳐𥳐 𧻓𧻓 齃齃 龎龎 ﬀff ﬁfi ﬂfl ﬃffi ﬄffl ﬅst ﬆst ﬓմն ﬔմե ﬕմի ﬖվն",
    "ﬗմխ יִיִ ײַײַ ﬠע ﬡא ﬢד ﬣה ﬤכ ﬥל ﬦם ﬧר ﬨת ﬩+ שׁשׁ שׂשׂ שּׁשּׁ שּׂשּׂ אַאַ אָאָ אּאּ בּבּ גּגּ דּדּ הּהּ וּוּ",
    "זּזּ טּטּ יּיּ ךּךּ כּכּ לּלּ מּמּ נּנּ סּסּ ףּףּ פּפּ צּצּ קּקּ רּרּ שּשּ תּתּ וֹוֹ בֿבֿ כֿכֿ פֿפֿ ﭏאל ﭐٱ ﭑٱ ﭒٻ",
    "ﭓٻ ﭔٻ ﭕٻ ﭖپ ﭗپ ﭘپ ﭙپ ﭚڀ ﭛڀ ﭜڀ ﭝڀ ﭞٺ ﭟٺ ﭠٺ ﭡٺ ﭢٿ ﭣٿ ﭤٿ ﭥٿ ﭦٹ ﭧٹ ﭨٹ ﭩٹ ﭪڤ ﭫڤ ﭬڤ ﭭڤ ﭮڦ ﭯڦ ﭰڦ ﭱڦ",
    "ﭲڄ ﭳڄ ﭴڄ ﭵڄ ﭶڃ ﭷڃ ﭸڃ ﭹڃ ﭺچ ﭻچ ﭼچ ﭽچ ﭾڇ ﭿڇ ﮀڇ ﮁڇ ﮂڍ ﮃڍ ﮄڌ ﮅڌ ﮆڎ ﮇڎ ﮈڈ ﮉڈ ﮊژ ﮋژ ﮌڑ ﮍڑ ﮎک ﮏک ﮐک",
    "ﮑک ﮒگ ﮓگ ﮔگ ﮕگ ﮖڳ ﮗڳ ﮘڳ ﮙڳ ﮚڱ ﮛڱ ﮜڱ ﮝڱ ﮞں ﮟں ﮠڻ ﮡڻ ﮢڻ ﮣڻ ﮤۀ ﮥۀ ﮦہ ﮧہ ﮨہ ﮩہ ﮪھ ﮫھ ﮬھ ﮭھ ﮮے ﮯے",
    "ﮰۓ ﮱۓ ﯓڭ ﯔڭ ﯕڭ ﯖڭ ﯗۇ ﯘۇ ﯙۆ ﯚۆ ﯛۈ ﯜۈ ﯝۇٴ ﯞۋ ﯟۋ ﯠۅ ﯡۅ ﯢۉ ﯣۉ ﯤې ﯥې ﯦې ﯧې ﯨى ﯩى ﯪئا ﯫئا ﯬئە ﯭئە",
    "ﯮئو ﯯئو ﯰئۇ ﯱئۇ ﯲئۆ ﯳئۆ ﯴئۈ ﯵئۈ ﯶئې ﯷئې ﯸئې ﯹئى ﯺئى ﯻئى ﯼی ﯽی ﯾی ﯿی ﰀئج ﰁئح ﰂئم ﰃئى ﰄئي ﰅبج",
    "ﰆبح ﰇبخ ﰈبم ﰉبى ﰊبي ﰋتج ﰌتح ﰍتخ ﰎتم ﰏتى ﰐتي ﰑثج ﰒثم ﰓثى ﰔثي ﰕجح ﰖجم ﰗحج ﰘحم ﰙخج ﰚخح ﰛخم ﰜسج",
    "ﰝسح ﰞسخ ﰟسم ﰠصح ﰡصم ﰢضج ﰣضح ﰤضخ ﰥضم ﰦطح ﰧطم ﰨظم ﰩعج ﰪعم ﰫغج ﰬغم ﰭفج ﰮفح ﰯفخ ﰰفم ﰱفى ﰲفي ﰳقح",
    "ﰴقم ﰵقى ﰶقي ﰷكا ﰸكج ﰹكح ﰺكخ ﰻكل ﰼكم ﰽكى ﰾكي ﰿلج ﱀلح ﱁلخ ﱂلم ﱃلى ﱄلي ﱅمج ﱆمح ﱇمخ ﱈمم ﱉمى ﱊمي",
    "ﱋنج ﱌنح ﱍنخ ﱎنم ﱏنى ﱐني ﱑهج ﱒهم ﱓهى ﱔهي ﱕيج ﱖيح ﱗيخ ﱘيم ﱙيى ﱚيي ﱛذٰ ﱜرٰ ﱝىٰ ﱤئر ﱥئز ﱦئم ﱧئن",
    "ﱨئى ﱩئي ﱪبر ﱫبز ﱬبم ﱭبن ﱮبى ﱯبي ﱰتر ﱱتز ﱲتم ﱳتن ﱴتى ﱵتي ﱶثر ﱷثز ﱸثم ﱹثن ﱺثى ﱻثي ﱼفى ﱽفي ﱾقى",
    "ﱿقي ﲀكا ﲁكل ﲂكم ﲃكى ﲄكي ﲅلم ﲆلى ﲇلي ﲈما ﲉمم ﲊنر ﲋنز ﲌنم ﲍنن ﲎنى ﲏني ﲐىٰ ﲑير ﲒيز ﲓيم ﲔين ﲕيى",
    "ﲖيي ﲗئج ﲘئح ﲙئخ ﲚئم ﲛئه ﲜبج ﲝبح ﲞبخ ﲟبم ﲠبه ﲡتج ﲢتح ﲣتخ ﲤتم ﲥته ﲦثم ﲧجح ﲨجم ﲩحج ﲪحم ﲫخج ﲬخم",
    "ﲭسج ﲮسح ﲯسخ ﲰسم ﲱصح ﲲصخ ﲳصم ﲴضج ﲵضح ﲶضخ ﲷضم ﲸطح ﲹظم ﲺعج ﲻعم ﲼغج ﲽغم ﲾفج ﲿفح ﳀفخ ﳁفم ﳂقح ﳃقم",
    "ﳄكج ﳅكح ﳆكخ ﳇكل ﳈكم ﳉلج ﳊلح ﳋلخ ﳌلم ﳍله ﳎمج ﳏمح ﳐمخ ﳑمم ﳒنج ﳓنح ﳔنخ ﳕنم ﳖنه ﳗهج ﳘهم ﳙهٰ ﳚيج",
    "ﳛيح ﳜيخ ﳝيم ﳞيه ﳟئم ﳠئه ﳡبم ﳢبه ﳣتم ﳤته ﳥثم ﳦثه ﳧسم ﳨسه ﳩشم ﳪشه ﳫكل ﳬكم ﳭلم ﳮنم ﳯنه ﳰيم ﳱيه",
    "ﳲـَّ ﳳـُّ ﳴـِّ ﳵطى ﳶطي ﳷعى ﳸعي ﳹغى ﳺغي ﳻسى ﳼسي ﳽشى ﳾشي ﳿحى ﴀحي ﴁجى ﴂجي ﴃخى ﴄخي ﴅصى ﴆصي ﴇضى",
    "ﴈضي ﴉشج ﴊشح ﴋشخ ﴌشم ﴍشر ﴎسر ﴏصر ﴐضر ﴑطى ﴒطي ﴓعى ﴔعي ﴕغى ﴖغي ﴗسى ﴘسي ﴙشى ﴚشي ﴛحى ﴜحي ﴝجى ﴞجي",
    "ﴟخى ﴠخي ﴡصى ﴢصي ﴣضى ﴤضي ﴥشج ﴦشح ﴧشخ ﴨشم ﴩشر ﴪسر ﴫصر ﴬضر ﴭشج ﴮشح ﴯشخ ﴰشم ﴱسه ﴲشه ﴳطم ﴴسج ﴵسح",
    "ﴶسخ ﴷشج ﴸشح ﴹشخ ﴺطم ﴻظم ﴼاً ﴽاً ﵐتجم ﵑتحج ﵒتحج ﵓتحم ﵔتخم ﵕتمج ﵖتمح ﵗتمخ ﵘجمح ﵙجمح ﵚحمي ﵛحمى",
    "ﵜسحج ﵝسجح ﵞسجى ﵟسمح ﵠسمح ﵡسمج ﵢسمم ﵣسمم ﵤصحح ﵥصحح ﵦصمم ﵧشحم ﵨشحم ﵩشجي ﵪشمخ ﵫشمخ ﵬشمم ﵭشمم",
    "ﵮضحى ﵯضخم ﵰضخم ﵱطمح ﵲطمح ﵳطمم ﵴطمي ﵵعجم ﵶعمم ﵷعمم ﵸعمى ﵹغمم ﵺغمي ﵻغمى ﵼفخم ﵽفخم ﵾقمح ﵿقمم",
    "ﶀلحم ﶁلحي ﶂلحى ﶃلجج ﶄلجج ﶅلخم ﶆلخم ﶇلمح ﶈلمح ﶉمحج ﶊمحم ﶋمحي ﶌمجح ﶍمجم ﶎمخج ﶏمخم ﶒمجخ ﶓهمج",
    "ﶔهمم ﶕنحم ﶖنحى ﶗنجم ﶘنجم ﶙنجى ﶚنمي ﶛنمى ﶜيمم ﶝيمم ﶞبخي ﶟتجي ﶠتجى ﶡتخي ﶢتخى ﶣتمي ﶤتمى ﶥجمي",
    "ﶦجحى ﶧجمى ﶨسخى ﶩصحي ﶪشحي ﶫضحي ﶬلجي ﶭلمي ﶮيحي ﶯيجي ﶰيمي ﶱممي ﶲقمي ﶳنحي ﶴقمح ﶵلحم ﶶعمي ﶷكمي",
    "ﶸنجح ﶹمخي ﶺلجم ﶻكمم ﶼلجم ﶽنجح ﶾجحي ﶿحجي ﷀمجي ﷁفمي ﷂبحي ﷃكمم ﷄعجم ﷅصمم ﷆسخي ﷇنجي ﷰصلے ﷱقلے",
    "ﷲالله ﷳاكبر ﷴمحمد ﷵصلعم ﷶرسول ﷷعليه ﷸوسلم ﷹصلى ﷼ریال ︐, ︑、 ︓: ︔; ︕! ︖? ︗〖 ︘〗 ︱— ︲– ︳_ ︴_ ︵(",
    "︶) ︷\x7b ︸\x7d ︹〔 ︺〕 ︻【 ︼】 ︽《 ︾》 ︿〈 ﹀〉 ﹁「 ﹂」 ﹃『 ﹄』 ﹇[ ﹈] ﹍_ ﹎_ ﹏_ ﹐, ﹑、 ﹔; ﹕: ﹖? ﹗! ﹘— ﹙( ﹚)",
    "﹛\x7b ﹜\x7d ﹝〔 ﹞〕 ﹟# ﹠& ﹡* ﹢+ ﹣- ﹤< ﹥> ﹦= ﹨\\ ﹩$ ﹪% ﹫@ ﹱـً ﹷـَ ﹹـُ ﹻـِ ﹽـّ ﹿـْ ﺀء ﺁآ ﺂآ ﺃأ",
    "ﺄأ ﺅؤ ﺆؤ ﺇإ ﺈإ ﺉئ ﺊئ ﺋئ ﺌئ ﺍا ﺎا ﺏب ﺐب ﺑب ﺒب ﺓة ﺔة ﺕت ﺖت ﺗت ﺘت ﺙث ﺚث ﺛث ﺜث ﺝج ﺞج ﺟج ﺠج ﺡح ﺢح",
    "ﺣح ﺤح ﺥخ ﺦخ ﺧخ ﺨخ ﺩد ﺪد ﺫذ ﺬذ ﺭر ﺮر ﺯز ﺰز ﺱس ﺲس ﺳس ﺴس ﺵش ﺶش ﺷش ﺸش ﺹص ﺺص ﺻص ﺼص ﺽض ﺾض ﺿض ﻀض ﻁط",
    "ﻂط ﻃط ﻄط ﻅظ ﻆظ ﻇظ ﻈظ ﻉع ﻊع ﻋع ﻌع ﻍغ ﻎغ ﻏغ ﻐغ ﻑف ﻒف ﻓف ﻔف ﻕق ﻖق ﻗق ﻘق ﻙك ﻚك ﻛك ﻜك ﻝل ﻞل ﻟل ﻠل",
    "ﻡم ﻢم ﻣم ﻤم ﻥن ﻦن ﻧن ﻨن ﻩه ﻪه ﻫه ﻬه ﻭو ﻮو ﻯى ﻰى ﻱي ﻲي ﻳي ﻴي ﻵلآ ﻶلآ ﻷلأ ﻸلأ ﻹلإ ﻺلإ ﻻلا ﻼلا",
    "！! ＂\" ＃# ＄$ ％% ＆& ＇' （( ）) ＊* ＋+ ，, －- ．. ／/ ０0 １1 ２2 ３3 ４4 ５5 ６6 ７7 ８8 ９9 ：: ；; ＜< ＝= ＞>",
    "？? ＠@ Ａa Ｂb Ｃc Ｄd Ｅe Ｆf Ｇg Ｈh Ｉi Ｊj Ｋk Ｌl Ｍm Ｎn Ｏo Ｐp Ｑq Ｒr Ｓs Ｔt Ｕu Ｖv Ｗw Ｘx Ｙy Ｚz ［[ ＼\\",
    "］] ＾^ ＿_ ｀` ａa ｂb ｃc ｄd ｅe ｆf ｇg ｈh ｉi ｊj ｋk ｌl ｍm ｎn ｏo ｐp ｑq ｒr ｓs ｔt ｕu ｖv ｗw ｘx ｙy ｚz",
    "｛\x7b ｜| ｝\x7d ～~ ｟⦅ ｠⦆ ｡. ｢「 ｣」 ､、 ･・ ｦヲ ｧァ ｨィ ｩゥ ｪェ ｫォ ｬャ ｭュ ｮョ ｯッ ｰー ｱア ｲイ ｳウ ｴエ ｵオ ｶカ ｷキ",
    "ｸク ｹケ ｺコ ｻサ ｼシ ｽス ｾセ ｿソ ﾀタ ﾁチ ﾂツ ﾃテ ﾄト ﾅナ ﾆニ ﾇヌ ﾈネ ﾉノ ﾊハ ﾋヒ ﾌフ ﾍヘ ﾎホ ﾏマ ﾐミ ﾑム ﾒメ ﾓモ ﾔヤ ﾕユ ﾖヨ",
    "ﾗラ ﾘリ ﾙル ﾚレ ﾛロ ﾜワ ﾝン ﾞ゙ ﾟ゚ ﾡᄀ ﾢᄁ ﾣᆪ ﾤᄂ ﾥᆬ ﾦᆭ ﾧᄃ ﾨᄄ ﾩᄅ ﾪᆰ ﾫᆱ ﾬᆲ ﾭᆳ ﾮᆴ ﾯᆵ ﾰᄚ ﾱᄆ ﾲᄇ ﾳᄈ ﾴᄡ ﾵᄉ ﾶᄊ",
    "ﾷᄋ ﾸᄌ ﾹᄍ ﾺᄎ ﾻᄏ ﾼᄐ ﾽᄑ ﾾᄒ ￂᅡ ￃᅢ ￄᅣ ￅᅤ ￆᅥ ￇᅦ ￊᅧ ￋᅨ ￌᅩ ￍᅪ ￎᅫ ￏᅬ ￒᅭ ￓᅮ ￔᅯ ￕᅰ ￖᅱ ￗᅲ ￚᅳ ￛᅴ ￜᅵ ￠¢ ￡£",
    "￢¬ ￤¦ ￥¥ ￦₩ ￨│ ￩← ￪↑ ￫→ ￬↓ ￭■ ￮○ 𐞁ː 𐞂ˑ 𐞃æ 𐞄ʙ 𐞅ɓ 𐞇ʣ 𐞈ꭦ 𐞉ʥ 𐞊ʤ 𐞋ɖ 𐞌ɗ 𐞍ᶑ 𐞎ɘ 𐞏ɞ 𐞐ʩ 𐞑ɤ 𐞒ɢ 𐞓ɠ 𐞔ʛ 𐞕ħ",
    "𐞖ʜ 𐞗ɧ 𐞘ʄ 𐞙ʪ 𐞚ʫ 𐞛ɬ 𐞜𝼄 𐞝ꞎ 𐞞ɮ 𐞟𝼅 𐞠ʎ 𐞡𝼆 𐞢ø 𐞣ɶ 𐞤ɷ 𐞥q 𐞦ɺ 𐞧𝼈 𐞨ɽ 𐞩ɾ 𐞪ʀ 𐞫ʨ 𐞬ʦ 𐞭ꭧ 𐞮ʧ 𐞯ʈ 𐞰ⱱ 𐞲ʏ 𐞳ʡ 𐞴ʢ 𐞵ʘ",
    "𐞶ǀ 𐞷ǁ 𐞸ǂ 𐞹𝼊 𐞺𝼞 𜳖a 𜳗b 𜳘c 𜳙d 𜳚e 𜳛f 𜳜g 𜳝h 𜳞i 𜳟j 𜳠k 𜳡l 𜳢m 𜳣n 𜳤o 𜳥p 𜳦q 𜳧r 𜳨s 𜳩t 𜳪u 𜳫v 𜳬w 𜳭x 𜳮y 𜳯z",
    "𜳰0 𜳱1 𜳲2 𜳳3 𜳴4 𜳵5 𜳶6 𜳷7 𜳸8 𜳹9 𝅗𝅥𝅗𝅥 𝅘𝅥𝅘𝅥 𝅘𝅥𝅮𝅘𝅥𝅮 𝅘𝅥𝅯𝅘𝅥𝅯 𝅘𝅥𝅰𝅘𝅥𝅰 𝅘𝅥𝅱𝅘𝅥𝅱 𝅘𝅥𝅲𝅘𝅥𝅲 𝆹𝅥𝆹𝅥 𝆺𝅥𝆺𝅥 𝆹𝅥𝅮𝆹𝅥𝅮 𝆺𝅥𝅮𝆺𝅥𝅮 𝆹𝅥𝅯𝆹𝅥𝅯 𝆺𝅥𝅯𝆺𝅥𝅯",
    "𝐀a 𝐁b 𝐂c 𝐃d 𝐄e 𝐅f 𝐆g 𝐇h 𝐈i 𝐉j 𝐊k 𝐋l 𝐌m 𝐍n 𝐎o 𝐏p 𝐐q 𝐑r 𝐒s 𝐓t 𝐔u 𝐕v 𝐖w 𝐗x 𝐘y 𝐙z 𝐚a 𝐛b 𝐜c 𝐝d 𝐞e",
    "𝐟f 𝐠g 𝐡h 𝐢i 𝐣j 𝐤k 𝐥l 𝐦m 𝐧n 𝐨o 𝐩p 𝐪q 𝐫r 𝐬s 𝐭t 𝐮u 𝐯v 𝐰w 𝐱x 𝐲y 𝐳z 𝐴a 𝐵b 𝐶c 𝐷d 𝐸e 𝐹f 𝐺g 𝐻h 𝐼i 𝐽j",
    "𝐾k 𝐿l 𝑀m 𝑁n 𝑂o 𝑃p 𝑄q 𝑅r 𝑆s 𝑇t 𝑈u 𝑉v 𝑊w 𝑋x 𝑌y 𝑍z 𝑎a 𝑏b 𝑐c 𝑑d 𝑒e 𝑓f 𝑔g 𝑖i 𝑗j 𝑘k 𝑙l 𝑚m 𝑛n 𝑜o 𝑝p",
    "𝑞q 𝑟r 𝑠s 𝑡t 𝑢u 𝑣v 𝑤w 𝑥x 𝑦y 𝑧z 𝑨a 𝑩b 𝑪c 𝑫d 𝑬e 𝑭f 𝑮g 𝑯h 𝑰i 𝑱j 𝑲k 𝑳l 𝑴m 𝑵n 𝑶o 𝑷p 𝑸q 𝑹r 𝑺s 𝑻t 𝑼u",
    "𝑽v 𝑾w 𝑿x 𝒀y 𝒁z 𝒂a 𝒃b 𝒄c 𝒅d 𝒆e 𝒇f 𝒈g 𝒉h 𝒊i 𝒋j 𝒌k 𝒍l 𝒎m 𝒏n 𝒐o 𝒑p 𝒒q 𝒓r 𝒔s 𝒕t 𝒖u 𝒗v 𝒘w 𝒙x 𝒚y 𝒛z",
    "𝒜a 𝒞c 𝒟d 𝒢g 𝒥j 𝒦k 𝒩n 𝒪o 𝒫p 𝒬q 𝒮s 𝒯t 𝒰u 𝒱v 𝒲w 𝒳x 𝒴y 𝒵z 𝒶a 𝒷b 𝒸c 𝒹d 𝒻f 𝒽h 𝒾i 𝒿j 𝓀k 𝓁l 𝓂m 𝓃n 𝓅p",
    "𝓆q 𝓇r 𝓈s 𝓉t 𝓊u 𝓋v 𝓌w 𝓍x 𝓎y 𝓏z 𝓐a 𝓑b 𝓒c 𝓓d 𝓔e 𝓕f 𝓖g 𝓗h 𝓘i 𝓙j 𝓚k 𝓛l 𝓜m 𝓝n 𝓞o 𝓟p 𝓠q 𝓡r 𝓢s 𝓣t 𝓤u",
    "𝓥v 𝓦w 𝓧x 𝓨y 𝓩z 𝓪a 𝓫b 𝓬c 𝓭d 𝓮e 𝓯f 𝓰g 𝓱h 𝓲i 𝓳j 𝓴k 𝓵l 𝓶m 𝓷n 𝓸o 𝓹p 𝓺q 𝓻r 𝓼s 𝓽t 𝓾u 𝓿v 𝔀w 𝔁x 𝔂y 𝔃z",
    "𝔄a 𝔅b 𝔇d 𝔈e 𝔉f 𝔊g 𝔍j 𝔎k 𝔏l 𝔐m 𝔑n 𝔒o 𝔓p 𝔔q 𝔖s 𝔗t 𝔘u 𝔙v 𝔚w 𝔛x 𝔜y 𝔞a 𝔟b 𝔠c 𝔡d 𝔢e 𝔣f 𝔤g 𝔥h 𝔦i 𝔧j",
    "𝔨k 𝔩l 𝔪m 𝔫n 𝔬o 𝔭p 𝔮q 𝔯r 𝔰s 𝔱t 𝔲u 𝔳v 𝔴w 𝔵x 𝔶y 𝔷z 𝔸a 𝔹b 𝔻d 𝔼e 𝔽f 𝔾g 𝕀i 𝕁j 𝕂k 𝕃l 𝕄m 𝕆o 𝕊s 𝕋t 𝕌u",
    "𝕍v 𝕎w 𝕏x 𝕐y 𝕒a 𝕓b 𝕔c 𝕕d 𝕖e 𝕗f 𝕘g 𝕙h 𝕚i 𝕛j 𝕜k 𝕝l 𝕞m 𝕟n 𝕠o 𝕡p 𝕢q 𝕣r 𝕤s 𝕥t 𝕦u 𝕧v 𝕨w 𝕩x 𝕪y 𝕫z 𝕬a",
    "𝕭b 𝕮c 𝕯d 𝕰e 𝕱f 𝕲g 𝕳h 𝕴i 𝕵j 𝕶k 𝕷l 𝕸m 𝕹n 𝕺o 𝕻p 𝕼q 𝕽r 𝕾s 𝕿t 𝖀u 𝖁v 𝖂w 𝖃x 𝖄y 𝖅z 𝖆a 𝖇b 𝖈c 𝖉d 𝖊e 𝖋f",
    "𝖌g 𝖍h 𝖎i 𝖏j 𝖐k 𝖑l 𝖒m 𝖓n 𝖔o 𝖕p 𝖖q 𝖗r 𝖘s 𝖙t 𝖚u 𝖛v 𝖜w 𝖝x 𝖞y 𝖟z 𝖠a 𝖡b 𝖢c 𝖣d 𝖤e 𝖥f 𝖦g 𝖧h 𝖨i 𝖩j 𝖪k",
    "𝖫l 𝖬m 𝖭n 𝖮o 𝖯p 𝖰q 𝖱r 𝖲s 𝖳t 𝖴u 𝖵v 𝖶w 𝖷x 𝖸y 𝖹z 𝖺a 𝖻b 𝖼c 𝖽d 𝖾e 𝖿f 𝗀g 𝗁h 𝗂i 𝗃j 𝗄k 𝗅l 𝗆m 𝗇n 𝗈o 𝗉p",
    "𝗊q 𝗋r 𝗌s 𝗍t 𝗎u 𝗏v 𝗐w 𝗑x 𝗒y 𝗓z 𝗔a 𝗕b 𝗖c 𝗗d 𝗘e 𝗙f 𝗚g 𝗛h 𝗜i 𝗝j 𝗞k 𝗟l 𝗠m 𝗡n 𝗢o 𝗣p 𝗤q 𝗥r 𝗦s 𝗧t 𝗨u",
    "𝗩v 𝗪w 𝗫x 𝗬y 𝗭z 𝗮a 𝗯b 𝗰c 𝗱d 𝗲e 𝗳f 𝗴g 𝗵h 𝗶i 𝗷j 𝗸k 𝗹l 𝗺m 𝗻n 𝗼o 𝗽p 𝗾q 𝗿r 𝘀s 𝘁t 𝘂u 𝘃v 𝘄w 𝘅x 𝘆y 𝘇z",
    "𝘈a 𝘉b 𝘊c 𝘋d 𝘌e 𝘍f 𝘎g 𝘏h 𝘐i 𝘑j 𝘒k 𝘓l 𝘔m 𝘕n 𝘖o 𝘗p 𝘘q 𝘙r 𝘚s 𝘛t 𝘜u 𝘝v 𝘞w 𝘟x 𝘠y 𝘡z 𝘢a 𝘣b 𝘤c 𝘥d 𝘦e",
    "𝘧f 𝘨g 𝘩h 𝘪i 𝘫j 𝘬k 𝘭l 𝘮m 𝘯n 𝘰o 𝘱p 𝘲q 𝘳r 𝘴s 𝘵t 𝘶u 𝘷v 𝘸w 𝘹x 𝘺y 𝘻z 𝘼a 𝘽b 𝘾c 𝘿d 𝙀e 𝙁f 𝙂g 𝙃h 𝙄i 𝙅j",
    "𝙆k 𝙇l 𝙈m 𝙉n 𝙊o 𝙋p 𝙌q 𝙍r 𝙎s 𝙏t 𝙐u 𝙑v 𝙒w 𝙓x 𝙔y 𝙕z 𝙖a 𝙗b 𝙘c 𝙙d 𝙚e 𝙛f 𝙜g 𝙝h 𝙞i 𝙟j 𝙠k 𝙡l 𝙢m 𝙣n 𝙤o",
    "𝙥p 𝙦q 𝙧r 𝙨s 𝙩t 𝙪u 𝙫v 𝙬w 𝙭x 𝙮y 𝙯z 𝙰a 𝙱b 𝙲c 𝙳d 𝙴e 𝙵f 𝙶g 𝙷h 𝙸i 𝙹j 𝙺k 𝙻l 𝙼m 𝙽n 𝙾o 𝙿p 𝚀q 𝚁r 𝚂s 𝚃t",
    "𝚄u 𝚅v 𝚆w 𝚇x 𝚈y 𝚉z 𝚊a 𝚋b 𝚌c 𝚍d 𝚎e 𝚏f 𝚐g 𝚑h 𝚒i 𝚓j 𝚔k 𝚕l 𝚖m 𝚗n 𝚘o 𝚙p 𝚚q 𝚛r 𝚜s 𝚝t 𝚞u 𝚟v 𝚠w 𝚡x 𝚢y",
    "𝚣z 𝚤ı 𝚥ȷ 𝚨α 𝚩β 𝚪γ 𝚫δ 𝚬ε 𝚭ζ 𝚮η 𝚯θ 𝚰ι 𝚱κ 𝚲λ 𝚳μ 𝚴ν 𝚵ξ 𝚶ο 𝚷π 𝚸ρ 𝚹θ 𝚺σ 𝚻τ 𝚼υ 𝚽φ 𝚾χ 𝚿ψ 𝛀ω 𝛁∇ 𝛂α 𝛃β",
    "𝛄γ 𝛅δ 𝛆ε 𝛇ζ 𝛈η 𝛉θ 𝛊ι 𝛋κ 𝛌λ 𝛍μ 𝛎ν 𝛏ξ 𝛐ο 𝛑π 𝛒ρ 𝛓σ 𝛔σ 𝛕τ 𝛖υ 𝛗φ 𝛘χ 𝛙ψ 𝛚ω 𝛛∂ 𝛜ε 𝛝θ 𝛞κ 𝛟φ 𝛠ρ 𝛡π 𝛢α",
    "𝛣β 𝛤γ 𝛥δ 𝛦ε 𝛧ζ 𝛨η 𝛩θ 𝛪ι 𝛫κ 𝛬λ 𝛭μ 𝛮ν 𝛯ξ 𝛰ο 𝛱π 𝛲ρ 𝛳θ 𝛴σ 𝛵τ 𝛶υ 𝛷φ 𝛸χ 𝛹ψ 𝛺ω 𝛻∇ 𝛼α 𝛽β 𝛾γ 𝛿δ 𝜀ε 𝜁ζ",
    "𝜂η 𝜃θ 𝜄ι 𝜅κ 𝜆λ 𝜇μ 𝜈ν 𝜉ξ 𝜊ο 𝜋π 𝜌ρ 𝜍σ 𝜎σ 𝜏τ 𝜐υ 𝜑φ 𝜒χ 𝜓ψ 𝜔ω 𝜕∂ 𝜖ε 𝜗θ 𝜘κ 𝜙φ 𝜚ρ 𝜛π 𝜜α 𝜝β 𝜞γ 𝜟δ 𝜠ε",
    "𝜡ζ 𝜢η 𝜣θ 𝜤ι 𝜥κ 𝜦λ 𝜧μ 𝜨ν 𝜩ξ 𝜪ο 𝜫π 𝜬ρ 𝜭θ 𝜮σ 𝜯τ 𝜰υ 𝜱φ 𝜲χ 𝜳ψ 𝜴ω 𝜵∇ 𝜶α 𝜷β 𝜸γ 𝜹δ 𝜺ε 𝜻ζ 𝜼η 𝜽θ 𝜾ι 𝜿κ",
    "𝝀λ 𝝁μ 𝝂ν 𝝃ξ 𝝄ο 𝝅π 𝝆ρ 𝝇σ 𝝈σ 𝝉τ 𝝊υ 𝝋φ 𝝌χ 𝝍ψ 𝝎ω 𝝏∂ 𝝐ε 𝝑θ 𝝒κ 𝝓φ 𝝔ρ 𝝕π 𝝖α 𝝗β 𝝘γ 𝝙δ 𝝚ε 𝝛ζ 𝝜η 𝝝θ 𝝞ι",
    "𝝟κ 𝝠λ 𝝡μ 𝝢ν 𝝣ξ 𝝤ο 𝝥π 𝝦ρ 𝝧θ 𝝨σ 𝝩τ 𝝪υ 𝝫φ 𝝬χ 𝝭ψ 𝝮ω 𝝯∇ 𝝰α 𝝱β 𝝲γ 𝝳δ 𝝴ε 𝝵ζ 𝝶η 𝝷θ 𝝸ι 𝝹κ 𝝺λ 𝝻μ 𝝼ν 𝝽ξ",
    "𝝾ο 𝝿π 𝞀ρ 𝞁σ 𝞂σ 𝞃τ 𝞄υ 𝞅φ 𝞆χ 𝞇ψ 𝞈ω 𝞉∂ 𝞊ε 𝞋θ 𝞌κ 𝞍φ 𝞎ρ 𝞏π 𝞐α 𝞑β 𝞒γ 𝞓δ 𝞔ε 𝞕ζ 𝞖η 𝞗θ 𝞘ι 𝞙κ 𝞚λ 𝞛μ 𝞜ν",
    "𝞝ξ 𝞞ο 𝞟π 𝞠ρ 𝞡θ 𝞢σ 𝞣τ 𝞤υ 𝞥φ 𝞦χ 𝞧ψ 𝞨ω 𝞩∇ 𝞪α 𝞫β 𝞬γ 𝞭δ 𝞮ε 𝞯ζ 𝞰η 𝞱θ 𝞲ι 𝞳κ 𝞴λ 𝞵μ 𝞶ν 𝞷ξ 𝞸ο 𝞹π 𝞺ρ 𝞻σ",
    "𝞼σ 𝞽τ 𝞾υ 𝞿φ 𝟀χ 𝟁ψ 𝟂ω 𝟃∂ 𝟄ε 𝟅θ 𝟆κ 𝟇φ 𝟈ρ 𝟉π 𝟊ϝ 𝟋ϝ 𝟎0 𝟏1 𝟐2 𝟑3 𝟒4 𝟓5 𝟔6 𝟕7 𝟖8 𝟗9 𝟘0 𝟙1 𝟚2 𝟛3 𝟜4",
    "𝟝5 𝟞6 𝟟7 𝟠8 𝟡9 𝟢0 𝟣1 𝟤2 𝟥3 𝟦4 𝟧5 𝟨6 𝟩7 𝟪8 𝟫9 𝟬0 𝟭1 𝟮2 𝟯3 𝟰4 𝟱5 𝟲6 𝟳7 𝟴8 𝟵9 𝟶0 𝟷1 𝟸2 𝟹3 𝟺4 𝟻5",
    "𝟼6 𝟽7 𝟾8 𝟿9 𞀰а 𞀱б 𞀲в 𞀳г 𞀴д 𞀵е 𞀶ж 𞀷з 𞀸и 𞀹к 𞀺л 𞀻м 𞀼о 𞀽п 𞀾р 𞀿с 𞁀т 𞁁у 𞁂ф 𞁃х 𞁄ц 𞁅ч 𞁆ш 𞁇ы 𞁈э 𞁉ю 𞁊ꚉ",
    "𞁋ә 𞁌і 𞁍ј 𞁎ө 𞁏ү 𞁐ӏ 𞁑а 𞁒б 𞁓в 𞁔г 𞁕д 𞁖е 𞁗ж 𞁘з 𞁙и 𞁚к 𞁛л 𞁜о 𞁝п 𞁞с 𞁟у 𞁠ф 𞁡х 𞁢ц 𞁣ч 𞁤ш 𞁥ъ 𞁦ы 𞁧ґ 𞁨і 𞁩ѕ",
    "𞁪џ 𞁫ҫ 𞁬ꙑ 𞁭ұ 𞸀ا 𞸁ب 𞸂ج 𞸃د 𞸅و 𞸆ز 𞸇ح 𞸈ط 𞸉ي 𞸊ك 𞸋ل 𞸌م 𞸍ن 𞸎س 𞸏ع 𞸐ف 𞸑ص 𞸒ق 𞸓ر 𞸔ش 𞸕ت 𞸖ث 𞸗خ 𞸘ذ 𞸙ض 𞸚ظ 𞸛غ",
    "𞸜ٮ 𞸝ں 𞸞ڡ 𞸟ٯ 𞸡ب 𞸢ج 𞸤ه 𞸧ح 𞸩ي 𞸪ك 𞸫ل 𞸬م 𞸭ن 𞸮س 𞸯ع 𞸰ف 𞸱ص 𞸲ق 𞸴ش 𞸵ت 𞸶ث 𞸷خ 𞸹ض 𞸻غ 𞹂ج 𞹇ح 𞹉ي 𞹋ل 𞹍ن 𞹎س 𞹏ع",
    "𞹑ص 𞹒ق 𞹔ش 𞹗خ 𞹙ض 𞹛غ 𞹝ں 𞹟ٯ 𞹡ب 𞹢ج 𞹤ه 𞹧ح 𞹨ط 𞹩ي 𞹪ك 𞹬م 𞹭ن 𞹮س 𞹯ع 𞹰ف 𞹱ص 𞹲ق 𞹴ش 𞹵ت 𞹶ث 𞹷خ 𞹹ض 𞹺ظ 𞹻غ 𞹼ٮ 𞹾ڡ",
    "𞺀ا 𞺁ب 𞺂ج 𞺃د 𞺄ه 𞺅و 𞺆ز 𞺇ح 𞺈ط 𞺉ي 𞺋ل 𞺌م 𞺍ن 𞺎س 𞺏ع 𞺐ف 𞺑ص 𞺒ق 𞺓ر 𞺔ش 𞺕ت 𞺖ث 𞺗خ 𞺘ذ 𞺙ض 𞺚ظ 𞺛غ 𞺡ب 𞺢ج 𞺣د 𞺥و",
    "𞺦ز 𞺧ح 𞺨ط 𞺩ي 𞺫ل 𞺬م 𞺭ن 𞺮س 𞺯ع 𞺰ف 𞺱ص 𞺲ق 𞺳ر 𞺴ش 𞺵ت 𞺶ث 𞺷خ 𞺸ذ 𞺹ض 𞺺ظ 𞺻غ 🄁0, 🄂1, 🄃2, 🄄3, 🄅4, 🄆5, 🄇6,",
    "🄈7, 🄉8, 🄊9, 🄐(a) 🄑(b) 🄒(c) 🄓(d) 🄔(e) 🄕(f) 🄖(g) 🄗(h) 🄘(i) 🄙(j) 🄚(k) 🄛(l) 🄜(m) 🄝(n) 🄞(o) 🄟(p)",
    "🄠(q) 🄡(r) 🄢(s) 🄣(t) 🄤(u) 🄥(v) 🄦(w) 🄧(x) 🄨(y) 🄩(z) 🄪〔s〕 🄫c 🄬r 🄭cd 🄮wz 🄰a 🄱b 🄲c 🄳d 🄴e 🄵f 🄶g 🄷h",
    "🄸i 🄹j 🄺k 🄻l 🄼m 🄽n 🄾o 🄿p 🅀q 🅁r 🅂s 🅃t 🅄u 🅅v 🅆w 🅇x 🅈y 🅉z 🅊hv 🅋mv 🅌sd 🅍ss 🅎ppv 🅏wc 🅪mc 🅫md 🅬mr",
    "🆐dj 🈀ほか 🈁ココ 🈂サ 🈐手 🈑字 🈒双 🈓デ 🈔二 🈕多 🈖解 🈗天 🈘交 🈙映 🈚無 🈛料 🈜前 🈝後 🈞再 🈟新 🈠初 🈡終 🈢生 🈣販 🈤声 🈥吹 🈦演 🈧投 🈨捕 🈩一",
    "🈪三 🈫遊 🈬左 🈭中 🈮右 🈯指 🈰走 🈱打 🈲禁 🈳空 🈴合 🈵満 🈶有 🈷月 🈸申 🈹割 🈺営 🈻配 🉀〔本〕 🉁〔三〕 🉂〔二〕 🉃〔安〕 🉄〔点〕 🉅〔打〕 🉆〔盗〕",
    "🉇〔勝〕 🉈〔敗〕 🉐得 🉑可 🯰0 🯱1 🯲2 🯳3 🯴4 🯵5 🯶6 🯷7 🯸8 🯹9 丽丽 丸丸 乁乁 𠄢𠄢 你你 侮侮 侻侻 倂倂 偺偺 備備 僧僧 像像 㒞㒞 𠘺𠘺 免免",
    "兔兔 兤兤 具具 𠔜𠔜 㒹㒹 內內 再再 𠕋𠕋 冗冗 冤冤 仌仌 冬冬 况况 𩇟𩇟 凵凵 刃刃 㓟㓟 刻刻 剆剆 割割 剷剷 㔕㔕 勇勇 勉勉 勤勤 勺勺 包包 匆匆 北北 卉卉 卑卑",
    "博博 即即 卽卽 卿卿 卿卿 卿卿 𠨬𠨬 灰灰 及及 叟叟 𠭣𠭣 叫叫 叱叱 吆吆 咞咞 吸吸 呈呈 周周 咢咢 哶哶 唐唐 啓啓 啣啣 善善 善善 喙喙 喫喫 喳喳 嗂嗂 圖圖 嘆嘆",
    "圗圗 噑噑 噴噴 切切 壮壮 城城 埴埴 堍堍 型型 堲堲 報報 墬墬 𡓤𡓤 売売 壷壷 夆夆 多多 夢夢 奢奢 𡚨𡚨 𡛪𡛪 姬姬 娛娛 娧娧 姘姘 婦婦 㛮㛮 㛼㛼 嬈嬈 嬾嬾 嬾嬾",
    "𡧈𡧈 寃寃 寘寘 寧寧 寳寳 𡬘𡬘 寿寿 将将 当当 尢尢 㞁㞁 屠屠 屮屮 峀峀 岍岍 𡷤𡷤 嵃嵃 𡷦𡷦 嵮嵮 嵫嵫 嵼嵼 巡巡 巢巢 㠯㠯 巽巽 帨帨 帽帽 幩幩 㡢㡢 𢆃𢆃 㡼㡼",
    "庰庰 庳庳 庶庶 廊廊 𪎒𪎒 廾廾 𢌱𢌱 𢌱𢌱 舁舁 弢弢 弢弢 㣇㣇 𣊸𣊸 𦇚𦇚 形形 彫彫 㣣㣣 徚徚 忍忍 志志 忹忹 悁悁 㤺㤺 㤜㤜 悔悔 𢛔𢛔 惇惇 慈慈 慌慌 慎慎 慌慌",
    "慺慺 憎憎 憲憲 憤憤 憯憯 懞懞 懲懲 懶懶 成成 戛戛 扝扝 抱抱 拔拔 捐捐 𢬌𢬌 挽挽 拼拼 捨捨 掃掃 揤揤 𢯱𢯱 搢搢 揅揅 掩掩 㨮㨮 摩摩 摾摾 撝撝 摷摷 㩬㩬 敏敏",
    "敬敬 𣀊𣀊 旣旣 書書 晉晉 㬙㬙 暑暑 㬈㬈 㫤㫤 冒冒 冕冕 最最 暜暜 肭肭 䏙䏙 朗朗 望望 朡朡 杞杞 杓杓 𣏃𣏃 㭉㭉 柺柺 枅枅 桒桒 梅梅 𣑭𣑭 梎梎 栟栟 椔椔 㮝㮝",
    "楂楂 榣榣 槪槪 檨檨 𣚣𣚣 櫛櫛 㰘㰘 次次 𣢧𣢧 歔歔 㱎㱎 歲歲 殟殟 殺殺 殻殻 𣪍𣪍 𡴋𡴋 𣫺𣫺 汎汎 𣲼𣲼 沿沿 泍泍 汧汧 洖洖 派派 海海 流流 浩浩 浸浸 涅涅 𣴞𣴞",
    "洴洴 港港 湮湮 㴳㴳 滋滋 滇滇 𣻑𣻑 淹淹 潮潮 𣽞𣽞 𣾎𣾎 濆濆 瀹瀹 瀞瀞 瀛瀛 㶖㶖 灊灊 災災 灷灷 炭炭 𠔥𠔥 煅煅 𤉣𤉣 熜熜 𤎫𤎫 爨爨 爵爵 牐牐 𤘈𤘈 犀犀 犕犕",
    "𤜵𤜵 𤠔𤠔 獺獺 王王 㺬㺬 玥玥 㺸㺸 㺸㺸 瑇瑇 瑜瑜 瑱瑱 璅璅 瓊瓊 㼛㼛 甤甤 𤰶𤰶 甾甾 𤲒𤲒 異異 𢆟𢆟 瘐瘐 𤾡𤾡 𤾸𤾸 𥁄𥁄 㿼㿼 䀈䀈 直直 𥃳𥃳 𥃲𥃲 𥄙𥄙 𥄳𥄳",
    "眞眞 真真 真真 睊睊 䀹䀹 瞋瞋 䁆䁆 䂖䂖 𥐝𥐝 硎硎 碌碌 磌磌 䃣䃣 𥘦𥘦 祖祖 𥚚𥚚 𥛅𥛅 福福 秫秫 䄯䄯 穀穀 穊穊 穏穏 𥥼𥥼 𥪧𥪧 𥪧𥪧 竮竮 䈂䈂 𥮫𥮫 篆篆 築築",
    "䈧䈧 𥲀𥲀 糒糒 䊠䊠 糨糨 糣糣 紀紀 𥾆𥾆 絣絣 䌁䌁 緇緇 縂縂 繅繅 䌴䌴 𦈨𦈨 𦉇𦉇 䍙䍙 𦋙𦋙 罺罺 𦌾𦌾 羕羕 翺翺 者者 𦓚𦓚 𦔣𦔣 聠聠 𦖨𦖨 聰聰 𣍟𣍟 䏕䏕 育育",
    "脃脃 䐋䐋 脾脾 媵媵 𦞧𦞧 𦞵𦞵 𣎓𣎓 𣎜𣎜 舁舁 舄舄 辞辞 䑫䑫 芑芑 芋芋 芝芝 劳劳 花花 芳芳 芽芽 苦苦 𦬼𦬼 若若 茝茝 荣荣 莭莭 茣茣 莽莽 菧菧 著著 荓荓 菊菊",
    "菌菌 菜菜 𦰶𦰶 𦵫𦵫 𦳕𦳕 䔫䔫 蓱蓱 蓳蓳 蔖蔖 𧏊𧏊 蕤蕤 𦼬𦼬 䕝䕝 䕡䕡 𦾱𦾱 𧃒𧃒 䕫䕫 虐虐 虜虜 虧虧 虩虩 蚩蚩 蚈蚈 蜎蜎 蛢蛢 蝹蝹 蜨蜨 蝫蝫 螆螆 䗗䗗 蟡蟡",
    "蠁蠁 䗹䗹 衠衠 衣衣 𧙧𧙧 裗裗 裞裞 䘵䘵 裺裺 㒻㒻 𧢮𧢮 𧥦𧥦 䚾䚾 䛇䛇 誠誠 諭諭 變變 豕豕 𧲨𧲨 貫貫 賁賁 贛贛 起起 𧼯𧼯 𠠄𠠄 跋跋 趼趼 跰跰 𠣞𠣞 軔軔 輸輸",
    "𨗒𨗒 𨗭𨗭 邔邔 郱郱 鄑鄑 𨜮𨜮 鄛鄛 鈸鈸 鋗鋗 鋘鋘 鉼鉼 鏹鏹 鐕鐕 𨯺𨯺 開開 䦕䦕 閷閷 𨵷𨵷 䧦䧦 雃雃 嶲嶲 霣霣 𩅅𩅅 𩈚𩈚 䩮䩮 䩶䩶 韠韠 𩐊𩐊 䪲䪲 𩒖𩒖 頋頋",
    "頋頋 頩頩 𩖶𩖶 飢飢 䬳䬳 餩餩 馧馧 駂駂 駾駾 䯎䯎 𩬰𩬰 鬒鬒 鱀鱀 鳽鳽 䳎䳎 䳭䳭 鵧鵧 𪃎𪃎 䳸䳸 𪄅𪄅 𪈎𪈎 𪊑𪊑 麻麻 䵖䵖 黹黹 黾黾 鼅鼅 鼏鼏 鼖鼖 鼻鼻 𪘀𪘀"]

/-- What characters stand for, small letters for capitals apart. -/
def foldings : List (Char × List Char) :=
  foldedWords.flatMap fun line => (line.splitOn " ").filterMap fun word =>
    match word.toList with
    | c :: l => some (c, l)
    | [] => none

/-- Ranges of the characters that do not count. -/
def silent : List (Nat × Nat) := [
    (173, 173), (847, 847), (4447, 4448), (6068, 6069), (6155, 6159), (8203, 8203), (8288, 8292),
    (8298, 8303), (12644, 12644), (65024, 65039), (65279, 65279), (65440, 65440), (113824, 113827),
    (119155, 119162), (917760, 917999)]

/-- Ranges of the characters that no name holds although they are printed or belong to others:
those that stand for texts with blanks or points, describe or control other characters, or take
the place of one. -/
def nameless : List (Nat × Nat) := [
    (160, 160), (168, 168), (175, 175), (180, 180), (184, 184), (728, 733), (890, 890), (900, 901),
    (1536, 1541), (1564, 1564), (1757, 1757), (1807, 1807), (2192, 2193), (2274, 2274),
    (8125, 8125), (8127, 8129), (8141, 8143), (8157, 8159), (8173, 8174), (8189, 8190),
    (8192, 8202), (8206, 8207), (8215, 8215), (8228, 8230), (8234, 8239), (8254, 8254),
    (8287, 8287), (8294, 8297), (9352, 9371), (12272, 12288), (12443, 12444), (12783, 12783),
    (13250, 13250), (13255, 13255), (13272, 13272), (64606, 64611), (65018, 65019), (65042, 65042),
    (65049, 65049), (65072, 65072), (65097, 65100), (65106, 65106), (65136, 65136), (65138, 65138),
    (65140, 65140), (65142, 65142), (65144, 65144), (65146, 65146), (65148, 65148), (65150, 65150),
    (65507, 65507), (65529, 65533), (69821, 69821), (69837, 69837), (78896, 78911),
    (127232, 127232), (917505, 917505), (917536, 917631)]

/-- A letter of a script whose capitals are the older letters. -/
def keepsCapital (c : Char) : Bool := 0x13A0 ≤ c.toNat && c.toNat ≤ 0x13F5

/-- What a character stands for in a name; `none` if it cannot be part of one. -/
def fold? (c : Char) : Option (List Char) :=
  let n := c.toNat
  if n < 128 then some [c.toLower]
  else if inRanges n silent then some []
  else if isJoiner c then some [c]
  else if inRanges n nameless || !(isPrintable c || isMark c) then none
  else if keepsCapital c then some [c]
  else
    match foldings.find? fun e => e.1 = c with
    | some e => some e.2
    | none => some (lowerChar c)

/-- The character stands for itself. -/
def isFolded (c : Char) : Bool := fold? c = some [c]

end Failsafe.Text
