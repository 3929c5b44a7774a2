import TableIndex.Text.Blank

/-!
# Composed characters

Many characters are canonically the same as a letter with a mark, and some the same as another character.
The tables hold the property `Decomposition_Mapping` as far as it is canonical; the syllables of Hangul
follow from their numbers.
-/

namespace TableIndex.Text

/-! ## The tables -/

/-- Characters that are a first one with a mark behind it: for every mark the first ones, each with the
composed character behind it. -/
def composedTable : List (Nat × String) := [
  (0x0300, "AÀEÈIÌNǸOÒUÙWẀYỲaàeèiìnǹoòuùwẁyỳ¨῭ÂẦÊỀÔỒÜǛâầêềôồüǜĂẰăằĒḔēḕŌṐōṑƠỜơờƯỪưừΑᾺΕῈΗῊΙῚΟῸΥῪΩῺ"),
  (0x0300, "αὰεὲηὴιὶοὸυὺωὼϊῒϋῢЕЀИЍеѐиѝἀἂἁἃἈἊἉἋἐἒἑἓἘἚἙἛἠἢἡἣἨἪἩἫἰἲἱἳἸἺἹἻὀὂὁὃὈὊὉὋὐὒὑὓὙὛὠὢὡὣὨὪὩὫ᾿῍῾῝"),
  (0x0301, "AÁCĆEÉGǴIÍKḰLĹMḾNŃOÓPṔRŔSŚUÚWẂYÝZŹaácćeégǵiíkḱlĺmḿnńoópṕrŕsśuúwẃyýzź¨΅ÂẤÅǺÆǼÇḈÊẾÏḮÔỐ"),
  (0x0301, "ÕṌØǾÜǗâấåǻæǽçḉêếïḯôốõṍøǿüǘĂẮăắĒḖēḗŌṒōṓŨṸũṹƠỚơớƯỨưứΑΆΕΈΗΉΙΊΟΌΥΎΩΏαάεέηήιίοόυύωώϊΐϋΰϒϓ"),
  (0x0301, "ГЃКЌгѓкќἀἄἁἅἈἌἉἍἐἔἑἕἘἜἙἝἠἤἡἥἨἬἩἭἰἴἱἵἸἼἹἽὀὄὁὅὈὌὉὍὐὔὑὕὙὝὠὤὡὥὨὬὩὭ᾿῎῾῞"),
  (0x0302, "AÂCĈEÊGĜHĤIÎJĴOÔSŜUÛWŴYŶZẐaâcĉeêgĝhĥiîjĵoôsŝuûwŵyŷzẑẠẬạậẸỆẹệỌỘọộ"),
  (0x0303, "AÃEẼIĨNÑOÕUŨVṼYỸaãeẽiĩnñoõuũvṽyỹÂẪÊỄÔỖâẫêễôỗĂẴăẵƠỠơỡƯỮưữ"),
  (0x0304, "AĀEĒGḠIĪOŌUŪYȲaāeēgḡiīoōuūyȳÄǞÆǢÕȬÖȪÜǕäǟæǣõȭöȫüǖǪǬǫǭȦǠȧǡȮȰȯȱΑᾹΙῙΥῩαᾱιῑυῡИӢУӮиӣуӯḶḸḷḹ"),
  (0x0304, "ṚṜṛṝ"), (0x0306, "AĂEĔGĞIĬOŎUŬaăeĕgğiĭoŏuŭȨḜȩḝΑᾸΙῘΥῨαᾰιῐυῠАӐЕӖЖӁИЙУЎаӑеӗжӂийуўẠẶạặ"),
  (0x0307, "AȦBḂCĊDḊEĖFḞGĠHḢIİMṀNṄOȮPṖRṘSṠTṪWẆXẊYẎZŻaȧbḃcċdḋeėfḟgġhḣmṁnṅoȯpṗrṙsṡtṫwẇxẋyẏzżŚṤśṥŠṦ"),
  (0x0307, "šṧſẛṢṨṣṩ𐗒𐗉𐗚𐗤"),
  (0x0308, "AÄEËHḦIÏOÖUÜWẄXẌYŸaäeëhḧiïoötẗuüwẅxẍyÿÕṎõṏŪṺūṻΙΪΥΫιϊυϋϒϔІЇАӒЕЁЖӜЗӞИӤОӦУӰЧӴЫӸЭӬаӓеёжӝ"),
  (0x0308, "зӟиӥоӧуӱчӵыӹэӭіїӘӚәӛӨӪөӫ"), (0x0309, "AẢEẺIỈOỎUỦYỶaảeẻiỉoỏuủyỷÂẨÊỂÔỔâẩêểôổĂẲăẳƠỞơởƯỬưử"),
  (0x030A, "AÅUŮaåuůwẘyẙ"), (0x030B, "OŐUŰoőuűУӲуӳ"),
  (0x030C, "AǍCČDĎEĚGǦHȞIǏKǨLĽNŇOǑRŘSŠTŤUǓZŽaǎcčdďeěgǧhȟiǐjǰkǩlľnňoǒrřsštťuǔzžÜǙüǚƷǮʒǯ"),
  (0x030F, "AȀEȄIȈOȌRȐUȔaȁeȅiȉoȍrȑuȕѴѶѵѷ"), (0x0311, "AȂEȆIȊOȎRȒUȖaȃeȇiȋoȏrȓuȗ"),
  (0x0313, "ΑἈΕἘΗἨΙἸΟὈΩὨαἀεἐηἠιἰοὀρῤυὐωὠ"), (0x0314, "ΑἉΕἙΗἩΙἹΟὉΡῬΥὙΩὩαἁεἑηἡιἱοὁρῥυὑωὡ"),
  (0x031B, "OƠUƯoơuư"),
  (0x0323, "AẠBḄDḌEẸHḤIỊKḲLḶMṂNṆOỌRṚSṢTṬUỤVṾWẈYỴZẒaạbḅdḍeẹhḥiịkḳlḷmṃnṇoọrṛsṣtṭuụvṿwẉyỵzẓƠỢơợƯỰưự"),
  (0x0324, "UṲuṳ"), (0x0325, "AḀaḁ"), (0x0326, "SȘTȚsștț"),
  (0x0327, "CÇDḐEȨGĢHḨKĶLĻNŅRŖSŞTŢcçdḑeȩgģhḩkķlļnņrŗsştţ"), (0x0328, "AĄEĘIĮOǪUŲaąeęiįoǫuų"),
  (0x032D, "DḒEḘLḼNṊTṰUṶdḓeḙlḽnṋtṱuṷ"), (0x032E, "HḪhḫ"), (0x0330, "EḚIḬUṴeḛiḭuṵ"),
  (0x0331, "BḆDḎKḴLḺNṈRṞTṮZẔbḇdḏhẖkḵlḻnṉrṟtṯzẕ"),
  (0x0338, "<≮=≠>≯←↚→↛↔↮⇐⇍⇒⇏⇔⇎∃∄∈∉∋∌∣∤∥∦∼≁≃≄≅≇≈≉≍≭≡≢≤≰≥≱≲≴≳≵≶≸≷≹≺⊀≻⊁≼⋠≽⋡⊂⊄⊃⊅⊆⊈⊇⊉⊑⋢⊒⋣⊢⊬⊨⊭⊩⊮⊫⊯⊲⋪⊳⋫"),
  (0x0338, "⊴⋬⊵⋭"), (0x0342, "¨῁αᾶηῆιῖυῦωῶϊῗϋῧἀἆἁἇἈἎἉἏἠἦἡἧἨἮἩἯἰἶἱἷἸἾἹἿὐὖὑὗὙὟὠὦὡὧὨὮὩὯ᾿῏῾῟"),
  (0x0345, "ΑᾼΗῌΩῼάᾴήῄαᾳηῃωῳώῴἀᾀἁᾁἂᾂἃᾃἄᾄἅᾅἆᾆἇᾇἈᾈἉᾉἊᾊἋᾋἌᾌἍᾍἎᾎἏᾏἠᾐἡᾑἢᾒἣᾓἤᾔἥᾕἦᾖἧᾗἨᾘἩᾙἪᾚἫᾛἬᾜἭᾝἮᾞἯᾟὠᾠ"),
  (0x0345, "ὡᾡὢᾢὣᾣὤᾤὥᾥὦᾦὧᾧὨᾨὩᾩὪᾪὫᾫὬᾬὭᾭὮᾮὯᾯὰᾲὴῂὼῲᾶᾷῆῇῶῷ"), (0x0653, "\u0627\u0622"),
  (0x0654, "\u0627\u0623\u0648\u0624\u064a\u0626\u06c1\u06c2\u06d2\u06d3\u06d5\u06c0"),
  (0x0655, "\u0627\u0625"), (0x093C, "नऩरऱळऴ"), (0x09BE, "\u09c7\u09cb"), (0x09D7, "\u09c7\u09cc"),
  (0x0B3E, "\u0b47\u0b4b"), (0x0B56, "\u0b47\u0b48"), (0x0B57, "\u0b47\u0b4c"),
  (0x0BBE, "\u0bc6\u0bca\u0bc7\u0bcb"), (0x0BD7, "ஒஔ\u0bc6\u0bcc"), (0x0C56, "\u0c46\u0c48"),
  (0x0CC2, "\u0cc6\u0cca"), (0x0CD5, "\u0cbf\u0cc0\u0cc6\u0cc7\u0cca\u0ccb"), (0x0CD6, "\u0cc6\u0cc8"),
  (0x0D3E, "\u0d46\u0d4a\u0d47\u0d4b"), (0x0D57, "\u0d46\u0d4c"), (0x0DCA, "\u0dd9\u0dda\u0ddc\u0ddd"),
  (0x0DCF, "\u0dd9\u0ddc"), (0x0DDF, "\u0dd9\u0dde"), (0x102E, "ဥဦ"),
  (0x1B35, "ᬅᬆᬇᬈᬉᬊᬋᬌᬍᬎᬑᬒ\u1b3a\u1b3b\u1b3c\u1b3d\u1b3e\u1b40\u1b3f\u1b41\u1b42\u1b43"),
  (0x3099, "うゔかがきぎくぐけげこごさざしじすずせぜそぞただちぢつづてでとどはばひびふぶへべほぼゝゞウヴカガキギクグケゲコゴサザシジスズセゼソゾタダチヂツヅテデトドハバヒビフブヘベ"),
  (0x3099, "ホボワヷヰヸヱヹヲヺヽヾ"), (0x309A, "はぱひぴふぷへぺほぽハパヒピフプヘペホポ"), (0x110BA, "𑂙𑂚𑂛𑂜𑂥𑂫"), (0x11127, "𑄱𑄮𑄲𑄯"),
  (0x1133E, "𑍇𑍋"), (0x11357, "𑍇𑍌"), (0x113B8, "𑏅𑎸"), (0x113BB, "𑎄𑎅"), (0x113C2, "𑎋𑎎𑏅𑏂"),
  (0x113C9, "𑎂𑎃𑎐𑎑𑏅𑏉"), (0x114B0, "𑒹𑒼"), (0x114BA, "𑒹𑒻"), (0x114BD, "𑒹𑒾"), (0x115AF, "𑖸𑖺𑖹𑖻"),
  (0x11930, "𑤵𑤸"), (0x1611E, "𖄡𖄞"), (0x1611F, "𖄦𖄡𖄦𖄢𖄧𖄩𖄤"), (0x16120, "𖄨𖄡𖄨"), (0x16129, "𖄡𖄩"),
  (0x16D67, "𖵣𖵪𖵨𖵩𖵪")]

/-- Characters that are a first one with a mark behind it but are never composed. -/
def separateTable : List (Nat × String) := [
  (0x0301, "\u0308\u0344"), (0x0338, "⫝⫝̸"), (0x05B4, "\u05d9\ufb1d"),
  (0x05B7, "\u05d0\ufb2e\u05f2\ufb1f"), (0x05B8, "\u05d0\ufb2f"), (0x05B9, "\u05d5\ufb4b"),
  (0x05BC, "\u05d0\ufb30\u05d1\ufb31\u05d2\ufb32\u05d3\ufb33\u05d4\ufb34\u05d5\ufb35\u05d6\ufb36"),
  (0x05BC, "\u05d8\ufb38\u05d9\ufb39\u05da\ufb3a\u05db\ufb3b\u05dc\ufb3c\u05de\ufb3e\u05e0\ufb40"),
  (0x05BC, "\u05e1\ufb41\u05e3\ufb43\u05e4\ufb44\u05e6\ufb46\u05e7\ufb47\u05e8\ufb48\u05e9\ufb49"),
  (0x05BC, "\u05ea\ufb4a"), (0x05BF, "\u05d1\ufb4c\u05db\ufb4d\u05e4\ufb4e"),
  (0x05C1, "\u05e9\ufb2a\ufb49\ufb2c"), (0x05C2, "\u05e9\ufb2b\ufb49\ufb2d"),
  (0x093C, "कक़खख़गग़जज़डड़ढढ़फफ़यय़"), (0x09BC, "ডড়ঢঢ়যয়"), (0x0A3C, "ਖਖ਼ਗਗ਼ਜਜ਼ਫਫ਼ਲਲ਼ਸਸ਼"), (0x0B3C, "ଡଡ଼ଢଢ଼"),
  (0x0F72, "\u0f71\u0f73"), (0x0F74, "\u0f71\u0f75"), (0x0F80, "\u0f71\u0f81\u0fb2\u0f76\u0fb3\u0f78"),
  (0x0FB5, "ཀཀྵ\u0f90\u0fb9"),
  (0x0FB7, "གགྷཌཌྷདདྷབབྷཛཛྷ\u0f92\u0f93\u0f9c\u0f9d\u0fa1\u0fa2\u0fa6\u0fa7\u0fab\u0fac"),
  (0x1D165, "𝅗𝅗𝅥𝅘𝅘𝅥𝆹𝆹𝅥𝆺𝆺𝅥"), (0x1D16E, "𝅘𝅥𝅘𝅥𝅮𝆹𝅥𝆹𝅥𝅮𝆺𝅥𝆺𝅥𝅮"), (0x1D16F, "𝅘𝅥𝅘𝅥𝅯𝆹𝅥𝆹𝅥𝅯𝆺𝅥𝆺𝅥𝅯"), (0x1D170, "𝅘𝅥𝅘𝅥𝅰"), (0x1D171, "𝅘𝅥𝅘𝅥𝅱"),
  (0x1D172, "𝅘𝅥𝅘𝅥𝅲")]

/-- Characters that are the same as another one: the number of the first of several neighbours, and what
they are the same as. -/
def duplicateTable : List (Nat × String) := [
  (0x0340, "\u0300\u0301"), (0x0343, "\u0313"), (0x0374, "ʹ"), (0x037E, ";"), (0x0387, "·"),
  (0x1F71, "ά"), (0x1F73, "έ"), (0x1F75, "ή"), (0x1F77, "ί"), (0x1F79, "ό"), (0x1F7B, "ύ"),
  (0x1F7D, "ώ"), (0x1FBB, "Ά"), (0x1FBE, "ι"), (0x1FC9, "Έ"), (0x1FCB, "Ή"), (0x1FD3, "ΐ"),
  (0x1FDB, "Ί"), (0x1FE3, "ΰ"), (0x1FEB, "Ύ"), (0x1FEE, "΅\x60"), (0x1FF9, "Ό"), (0x1FFB, "Ώ"),
  (0x1FFD, "´"), (0x2000, "\u2002\u2003"), (0x2126, "Ω"), (0x212A, "KÅ"), (0x2329, "〈〉"),
  (0xF900, "豈更車賈滑串句龜龜契金喇奈懶癩羅蘿螺裸邏樂洛烙珞落酪駱亂卵欄爛蘭鸞嵐濫藍襤拉臘蠟廊朗浪狼郎來冷勞擄櫓爐盧老蘆虜路露魯鷺碌祿綠菉錄鹿論壟弄籠聾牢磊賂雷壘屢樓淚漏累縷陋勒肋"),
  (0xF954, "凜凌稜綾菱陵讀拏樂諾丹寧怒率異北磻便復不泌數索參塞省葉說殺辰沈拾若掠略亮兩凉梁糧良諒量勵呂女廬旅濾礪閭驪麗黎力曆歷轢年憐戀撚漣煉璉秊練聯輦蓮連鍊列劣咽烈裂說廉念捻殮簾獵"),
  (0xF9A8, "令囹寧嶺怜玲瑩羚聆鈴零靈領例禮醴隸惡了僚寮尿料樂燎療蓼遼龍暈阮劉杻柳流溜琉留硫紐類六戮陸倫崙淪輪律慄栗率隆利吏履易李梨泥理痢罹裏裡里離匿溺吝燐璘藺隣鱗麟林淋臨立笠粒狀炙"),
  (0xF9FC, "識什茶刺切度拓糖宅洞暴輻行降見廓兀嗀"), (0xFA10, "塚"), (0xFA12, "晴"), (0xFA15, "凞猪益礼神祥福靖精羽"), (0xFA20, "蘒"),
  (0xFA22, "諸"), (0xFA25, "逸都"),
  (0xFA2A, "飯飼館鶴郞隷侮僧免勉勤卑喝嘆器塀墨層屮悔慨憎懲敏既暑梅海渚漢煮爫琢碑社祉祈祐祖祝禍禎穀突節練縉繁署者臭艹艹著褐視謁謹賓贈辶逸難響頻恵𤋮舘"),
  (0xFA70, "並况全侀充冀勇勺喝啕喙嗢塚墳奄奔婢嬨廒廙彩徭惘慎愈憎慠懲戴揄搜摒敖晴朗望杖歹殺流滛滋漢瀞煮瞧爵犯猪瑱甆画瘝瘟益盛直睊着磌窱節类絛練缾者荒華蝹襁覆視調諸請謁諾諭謹變贈輸遲"),
  (0xFAC4, "醙鉶陼難靖韛響頋頻鬒龜𢡊𢡄𣏕㮝䀘䀹𥉉𥳐𧻓齃龎"),
  (0x2F800, "丽丸乁𠄢你侮侻倂偺備僧像㒞𠘺免兔兤具𠔜㒹內再𠕋冗冤仌冬况𩇟凵刃㓟刻剆割剷㔕勇勉勤勺包匆北卉卑博即卽卿卿卿𠨬灰及叟𠭣叫叱吆咞吸呈周咢哶唐啓啣善善喙喫喳嗂圖嘆圗噑噴切壮城埴"),
  (0x2F854, "堍型堲報墬𡓤売壷夆多夢奢𡚨𡛪姬娛娧姘婦㛮㛼嬈嬾嬾𡧈寃寘寧寳𡬘寿将当尢㞁屠屮峀岍𡷤嵃𡷦嵮嵫嵼巡巢㠯巽帨帽幩㡢𢆃㡼庰庳庶廊𪎒廾𢌱𢌱舁弢弢㣇𣊸𦇚形彫㣣徚忍志忹悁㤺㤜悔𢛔惇慈慌"),
  (0x2F8A8, "慎慌慺憎憲憤憯懞懲懶成戛扝抱拔捐𢬌挽拼捨掃揤𢯱搢揅掩㨮摩摾撝摷㩬敏敬𣀊旣書晉㬙暑㬈㫤冒冕最暜肭䏙朗望朡杞杓𣏃㭉柺枅桒梅𣑭梎栟椔㮝楂榣槪檨𣚣櫛㰘次𣢧歔㱎歲殟殺殻𣪍𡴋𣫺汎𣲼"),
  (0x2F8FC, "沿泍汧洖派海流浩浸涅𣴞洴港湮㴳滋滇𣻑淹潮𣽞𣾎濆瀹瀞瀛㶖灊災灷炭𠔥煅𤉣熜𤎫爨爵牐𤘈犀犕𤜵𤠔獺王㺬玥㺸㺸瑇瑜瑱璅瓊㼛甤𤰶甾𤲒異𢆟瘐𤾡𤾸𥁄㿼䀈直𥃳𥃲𥄙𥄳眞真真睊䀹瞋䁆䂖𥐝硎碌"),
  (0x2F950, "磌䃣𥘦祖𥚚𥛅福秫䄯穀穊穏𥥼𥪧𥪧竮䈂𥮫篆築䈧𥲀糒䊠糨糣紀𥾆絣䌁緇縂繅䌴𦈨𦉇䍙𦋙罺𦌾羕翺者𦓚𦔣聠𦖨聰𣍟䏕育脃䐋脾媵𦞧𦞵𣎓𣎜舁舄辞䑫芑芋芝劳花芳芽苦𦬼若茝荣莭茣莽菧著荓菊菌菜"),
  (0x2F9A4, "𦰶𦵫𦳕䔫蓱蓳蔖𧏊蕤𦼬䕝䕡𦾱𧃒䕫虐虜虧虩蚩蚈蜎蛢蝹蜨蝫螆䗗蟡蠁䗹衠衣𧙧裗裞䘵裺㒻𧢮𧥦䚾䛇誠諭變豕𧲨貫賁贛起𧼯𠠄跋趼跰𠣞軔輸𨗒𨗭邔郱鄑𨜮鄛鈸鋗鋘鉼鏹鐕𨯺開䦕閷𨵷䧦雃嶲霣𩅅𩈚"),
  (0x2F9F8, "䩮䩶韠𩐊䪲𩒖頋頋頩𩖶飢䬳餩馧駂駾䯎𩬰鬒鱀鳽䳎䳭鵧𪃎䳸𪄅𪈎𪊑麻䵖黹黾鼅鼏鼖鼻𪘀")]

/-- A composed character and its two parts. -/
structure Composed where
  first : Char
  second : Char
  whole : Char
deriving DecidableEq, Repr, Inhabited

/-- The composed characters in a row of a table. -/
def composedRow (second : Char) : List Char → List Composed
  | first :: whole :: cs => ⟨first, second, whole⟩ :: composedRow second cs
  | _ => []

/-- The composed characters in a table. -/
def composedIn (table : List (Nat × String)) : List Composed :=
  table.flatMap fun (second, row) => composedRow (Char.ofNat second) row.toList

/-- The characters that two others compose. -/
def composed : List Composed := composedIn composedTable

/-- All characters that have two parts. -/
def twoParts : List Composed := composed ++ composedIn separateTable

/-- What a character is the same as. -/
def duplicateOf? (c : Char) : Option Char :=
  duplicateTable.findSome? fun (first, row) =>
    if first ≤ c.toNat then row.toList[c.toNat - first]? else none

/-! ## Hangul -/

/-- The first syllable, and the first consonant, vowel and closing consonant; the latter is none at all. -/
def hangulBases : Nat × Nat × Nat × Nat := (0xAC00, 0x1100, 0x1161, 0x11A7)

/-- The parts of a syllable. -/
def hangulParts? (c : Char) : Option (List Char) :=
  let (syllables, leads, vowels, tails) := hangulBases
  let n := c.toNat - syllables
  if c.toNat < syllables || 11172 ≤ n then none
  else
    let tail := if n % 28 = 0 then [] else [Char.ofNat (tails + n % 28)]
    some (Char.ofNat (leads + n / 588) :: Char.ofNat (vowels + n % 588 / 28) :: tail)

/-- The syllable of a consonant and a vowel, or of a syllable that ends in a vowel and a consonant. -/
def hangulWhole? (a b : Char) : Option Char :=
  let (syllables, leads, vowels, tails) := hangulBases
  let i := a.toNat
  let j := b.toNat
  if leads ≤ i && i < leads + 19 && vowels ≤ j && j < vowels + 21 then
    some (Char.ofNat (syllables + (i - leads) * 588 + (j - vowels) * 28))
  else if syllables ≤ i && i < syllables + 11172 && (i - syllables) % 28 == 0 && tails < j
      && j < tails + 28 then
    some (Char.ofNat (i + (j - tails)))
  else none

/-! ## Taking apart and composing -/

/-- The parts of a character, none of which has parts itself. Four steps are enough for every one. -/
def partsOf (c : Char) : Nat → List Char
  | 0 => [c]
  | steps + 1 =>
    if c.toNat < 0x80 then [c]
    else match hangulParts? c with
      | some parts => parts
      | none =>
        match duplicateOf? c with
        | some d => partsOf d steps
        | none =>
          match twoParts.find? (·.whole == c) with
          | some p => partsOf p.first steps ++ [p.second]
          | none => [c]

/-- The character that two others compose. -/
def whole? (a b : Char) : Option Char :=
  match hangulWhole? a b with
  | some c => some c
  | none => (composed.find? fun p => p.first == a && p.second == b).map (·.whole)

end TableIndex.Text
