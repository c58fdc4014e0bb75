import Dashboard.Unicode.Runs

/-!
# Break properties

The properties Grapheme_Cluster_Break, Word_Break and Sentence_Break of Unicode
16.0. Precomposed Hangul syllables are not in the table of the first: their
value follows from their place in the block.
-/

namespace Dashboard.Unicode.Break

/-- The runs of Grapheme_Cluster_Break without the Hangul syllables. -/
def graphemeRuns : List Run := readRuns 2
  ["10CNLF2CNCR18CN95XX33CN13XXCN594XX112EX275XX7EX263XX45EXXXEXXX2EXXX2EXXXEX56XX6PP10XX11EXXX",
   "CN46XX21EX16XXEX101XX7EXPPXX6EX2XX2EXXX4EX33XXPPXXEX30XX27EX91XX11EX58XX9EX9XXEX24XX4EXXX9EX",
   "XX3EXXX5EX43XX3EX52XX2PP5XX9EX42XX24EXPP32EXSM54XXEXSMEXXX3SM8EX4SMEX2SMXX7EX10XX2EX29XXEX",
   "2SM56XXEXXXEX2SM4EX2XX2SM2XX2SMEX9XXEX10XX2EX26XXEX2XX2EXSM56XXEXXX3SM2EX4XX2EX2XX3EX3XXEX",
   "30XX2EX3XXEX11XX2EXSM56XXEXXX3SM5EXXX2EXSMXX2SMEX20XX2EX22XX6EXXXEX2SM56XXEXXX2EXSM4EX2XX2SM",
   "2XX2SMEX7XX3EX10XX2EX30XXEX59XXEXSMEX2SM3XX3SMXX3SMEX9XXEX40XXEX3SMEX55XXEXXX3EX4SMXX3EXXX",
   "4EX7XX2EX11XX2EX29XXEX2SM56XXEXXXSMEX2SMEX2SMXXEX2SMXX2SM2EX7XX2EX11XX2EX15XXSM12XX2EX2SM",
   "55XX2EXXXEX2SM4EXXX3SMXX3SMEXPP8XXEX10XX2EX29XXEX2SM70XXEX4XXEX2SM3EXXXEXXX7SMEX18XX2SM61XX",
   "EXXXSM7EX12XX8EX98XXEXXXSM9EX11XX7EX73XX2EX27XXEXXXEXXXEX4XX2SM49XX14EXSM5EXXX2EX5XX11EXXX",
   "36EX9XXEX102XX4EXSM6EXXX2EX2SM2EX23XX2SM2EX4XX3EX16XX4EX13XXEXXXSM2EX6XXEX15XXEX98XX96LL72VV",
   "88TT349XX3EX946XX3EXSM28XX2EXSM29XX2EX30XX2EX64XX2EXSM7EX8SMEX2SM11EX9XXEX45XX3EXCNEX117XX",
   "2EX34XXEX118XX3EX4SM2EX3SM4XX2SMEX6SM3EX219XX2EX2SMEX57XXSMEXSM7EXXXEXXXEX2XX8EX6SM10EX2XXEX",
   "48XX31EX49XX4EXSM47XX7EXSMEX5SMEX2SM38XX9EX12XX2EXSM30XXSM4EX2SM2EXSM3EX56XXEXSM2EX3SMEXSM",
   "3EX2SM48XX8SM8EX2SM2EX152XX3EXXX13EXSM7EX4XXEX6XXEX2XXSM2EX198XX64EX523XXCNEXZW2CN24XX7CN",
   "49XX16CN96XX33EX3070XX3EX141XXEX96XX32EX554XX6EX105XX2EX30164XX4EXXX10EX32XX2EX80XX2EX272XX",
   "EX3XXEX4XXEX23XX2SM2EXSM4XXEX83XX2SM50XX16SM2EX26XX18EX13XXEX38XX8EX25XX11EX2SM12XX29LL3XX",
   "3EXSM47XXEX2SM4EX2SM2EX3SM36XXEX67XX6EX2SM2EX2SM2EX12XXEX8XXEXSM46XXEX51XXEXXX3EX2XX2EX5XX",
   "2EXXXEX41XXSM2EX2SM5XXSMEX236XX2SMEX2SMEX2SMXXSMEX11202XX23VV4XX49TT8994XXEX737XX16EX16XX",
   "16EX207XXCN158XX2EX80XX12CN513XXEX226XXEX149XX5EX1670XX3EXXX2EX5XX4EX40XX3EX4XXEX165XX2EX",
   "573XX4EX65XX5EX317XX2EX79XX4EX70XX11EX49XX4EX122XXSMEXSM53XX15EX41XXEX2XX2EX10XX3EXSM45XX3SM",
   "4EX2SM2EX2XXPP4XXEX10XXPP50XX3EX36XX5EXSM8EX16XX2SM44XXEX12XX2EXSM48XX3SM9EX2SMXX2PP5XX4EXXX",
   "SMEX92XX3SM3EX2SMEXSM2EX6XXEX2XXEX157XXEX3SM8EX21XX2EX2SM55XX2EXXXEXSMEX4SM2XX2SM2XX3SM9XXEX",
   "10XX2SM2XX7EX3XX5EX67XX3SM6EXXXSM2XXSMXX4SMXX2SMEXSMEXXXEX14XX2EX82XX3SM8EX2SM3EXSMEX23XXEX",
   "81XXEX2SM6EXSMEX2SMEXSM2EXSM2EX235XXEX2SM4EX2XX4SM2EXSM2EX27XX2EX82XX3SM8EX2SMEXSM2EX106XXEX",
   "SMEX2SM6EXSMEX101XX3EX2XX4EXSM5EX256XX3SM9EXSM2EX245XXEX5SMXX2SM2XX2EXSMEXPPSMPPSMEX141XX3SM",
   "4EX2XX2EX4SMEX3XXSM28XX10EX40XX6EXSMPP4EX8XXEX9XX6EX2SM3EX40XX6PP13EXSM2EX405XXSM7EXXX6EXSM",
   "EX82XX22EXXXSM7EXSM2EXSM2EX122XX6EX3XXEXXX2EXXX7EXPPEX66XX5SMXX2EXXX2SMEXSMEX347XX2EX2SM9XX",
   "2EXPPSM48XX2SM5EX3XX2SMEXSMEX23XXEX5333XX16CNEX6XX15EX11464XX12EX3SM3EX2496XX5EX59XX7EX",
   "1048XXEXXX55SM7XX4EX81XXEX11XX2SM19627XX2EXXX4CN4700XX46EX2XX23EX542XXEXSM3EX3XXSM5EX8CN8EX",
   "2XX7EX30XX4EX148XX3EX1979XX55EX4XX50EX8XXEX14XXEX22XX5EXXX15EX1360XX7EXXX17EX2XX7EXXX2EXXX",
   "5EX100XXEX160XX7EX375XXEX61XX4EX508XX4EX254XX2EX736XX7EX109XX7EX2203XX26RI507XX5EX789504XX",
   "32CN96EX128CN240EX3600CN192512XX"]

/-- The runs of Word_Break. -/
def wordRuns : List Run := readRuns 2
  ["10XXLF2NLCR18XXWSXXDQ4XXSQ4XXMNXXMBXX10NUMLMN5XX26LE4XXEXXX26LE10XXNL36XXLE2XXFO7XXLEXXML2XX",
   "LE5XX23LEXX31LEXX480LE6XX34LE112ED5LEXX2LE2XX4LEMNLE6XXLEML3LEXXLEXX20LEXX83LEXX139LEXX7ED",
   "166LEXX38LE2XX4LEXXLEML41LEMNLE6XX45EDXXEDXX2EDXX2EDXXED8XX27HL4XX4HLLEML11XX6FO6XX2MN2XX",
   "11EDXXFO3XX43LE21ED10NUXXNUMNXX2LEED99LEXXLE7EDFOXX6ED2LE2EDXX4ED2LE10NU3LE2XXLE15XXFOLEED",
   "30LE27ED2XX89LE11EDLE14XX10NU33LE9ED2LE2XXMNXXLE2XXED2XX22LE4EDLE9EDLE3EDLE5ED18XX25LE3ED4XX",
   "11LE5XX24LEXX6LEXX2FO5XX9ED42LE24EDFO33ED54LE3EDLE18EDLE7ED10LE2ED2XX10NUXX16LE3EDXX8LE2XX",
   "2LE2XX22LEXX7LEXXLE3XX4LE2XXEDLE7ED2XX2ED2XX3EDLE8XXED4XX2LEXX3LE2ED2XX10NU2LE10XXLEXXED2XX",
   "3EDXX6LE4XX2LE2XX22LEXX7LEXX2LEXX2LEXX2LE2XXEDXX5ED4XX2ED2XX3ED3XXED7XX4LEXXLE7XX10NU2ED3LE",
   "ED11XX3EDXX9LEXX3LEXX22LEXX7LEXX2LEXX5LE2XXEDLE8EDXX3EDXX3ED2XXLE15XX2LE2ED2XX10NU9XXLE6EDXX",
   "3EDXX8LE2XX2LE2XX22LEXX7LEXX2LEXX5LE2XXEDLE7ED2XX2ED2XX3ED7XX3ED4XX2LEXX3LE2ED2XX10NUXXLE",
   "16XXEDLEXX6LE3XX3LEXX4LE3XX2LEXXLEXX2LE3XX2LE3XX3LE3XX12LE4XX5ED3XX3EDXX4ED2XXLE6XXED14XX",
   "10NU16XX5ED8LEXX3LEXX23LEXX16LE2XXEDLE7EDXX3EDXX4ED7XX2EDXX3LE2XXLE2XX2LE2ED2XX10NU16XXLE3ED",
   "XX8LEXX3LEXX23LEXX10LEXX5LE2XXEDLE7EDXX3EDXX4ED7XX2ED6XX2LEXX2LE2ED2XX10NUXX2LEED12XX4ED9LE",
   "XX3LEXX41LE2EDLE7EDXX3EDXX4EDLE5XX3LEED7XX3LE2ED2XX10NU10XX6LEXX3EDXX18LE3XX24LEXX9LEXXLE2XX",
   "7LE3XXED4XX6EDXXEDXX8ED6XX10NU2XX2ED61XXED2XX7ED12XX8EDXX10NU87XXED2XX9ED11XX7EDXX10NU38XXLE",
   "23XX2ED6XX10NU11XXEDXXEDXXED4XX2ED8LEXX36LE4XX20EDXX2ED5LE11EDXX36ED9XXED100XX20EDXX10NU12XX",
   "4ED4XX3EDXX3ED2XX7ED3XX4ED13XX12EDXXED10NU4ED2XX38LEXXLE5XXLE2XX43LEXX333LEXX4LE2XX7LEXXLEXX",
   "4LE2XX41LEXX4LE2XX33LEXX4LE2XX7LEXXLEXX4LE2XX15LEXX57LEXX4LE2XX67LE2XX3ED32XX16LE16XX86LE2XX",
   "6LE3XX620LE2XX17LEWS26LE5XX75LE3XX11LE7XX18LE4ED9XX19LE3ED11XX18LE2ED12XX13LEXX3LEXX2ED64XX",
   "32ED9XXED2XX10NU33XX3EDFOED10NU6XX89LE7XX5LE2ED34LEEDLE5XX70LE10XX31LEXX12ED4XX12ED10XX10NU",
   "128XX10NU38XX23LE5ED57XX10EDXX29ED2XXED10NU6XX10NU22XX31ED49XX5ED47LE17ED8LE3XX10NU17XX9ED",
   "12XX3ED30LE13ED2LE10NU44LE14ED12XX36LE20ED8XX10NU3XX3LE10NU36LE2XX11LE5XX43LE2XX3LE16XX3EDXX",
   "21ED4LEED6LEED2LE3EDLE5XX192LE64ED278LE2XX6LE2XX38LE2XX6LE2XX8LEXXLEXXLEXXLEXX31LE2XX53LEXX",
   "7LEXXLE3XX3LEXX7LE3XX4LE2XX6LE4XX13LE5XX3LEXX7LE3XX7WSXX3WSXXEDZW2FO8XX2MB10XXMB2XXML2NL5FO",
   "EX15XX2EX3XXMN15XXEX10XXWS5FOXX10FOXXLE13XXLE16XX13LE51XX33ED17XXLE4XXLE2XX10LEXXLE3XX5LE6XX",
   "LEXXLEXXLEXX4LEXX11LE2XX4LE5XX5LE4XXLE17XX41LE813XX52LE1814XX229LE6XX4LE3ED2LE12XX38LEXXLE",
   "5XXLE2XX56LE7XXLE15XXED23LE9XX7LEXX7LEXX7LEXX7LEXX7LEXX7LEXX7LEXX7LEXX32ED47XXLE464XXWS4XXLE",
   "36XX6EDXX5KA5XX2LE92XX2ED2KA3XX91KAXX4KA5XX43LEXX94LE17XX32LE48XX16KA208XX47KAXX88KA27816XX",
   "1165LE67XX46LE2XX269LE3XX16LE10NU2LE20XX47LE4EDXX10EDXX31LE2ED80LE2ED22XX198LE2XX2LEXXLEXX",
   "8LE21XX16LEED3LEED4LEED23LE5ED4XXED19XX52LE12XX2ED50LE18ED10XX10NU6XX18ED6LE3XXLEXX2LEED10NU",
   "28LE8ED2XX23LE13ED12XX29LE3XX4ED47LE14ED14XXLE10NU11XXED10XX10NU6XX41LE14ED9XX3LEED8LE2ED2XX",
   "10NU33XX3ED50XXEDXX3ED2XX2ED5XX2EDXXED30XX11LE5ED2XX3LE2ED10XX6LE2XX6LE2XX6LE9XX7LEXX7LEXX",
   "58LE6XX115LE8EDXX2ED2XX10NU6XX11172LE12XX23LE4XX49LE8964XX7LE12XX5LE5XXHLED10HLXX13HLXX5HLXX",
   "HLXX2HLXX2HLXX10HL98LE33XX363LE18XX64LE2XX54LE40XX12LE4XX16EDMN2XXMLMN11XX16ED3XX2EX24XX3EX",
   "MNXXMBXXMNML26XX5LEXX135LE2XXFO7XXMB4XXMNXXMBXX10NUMLMN5XX26LE4XXEXXX26LE11XX56KA2ED31LE3XX",
   "6LE2XX6LE2XX6LE2XX3LE28XX3FO4XX12LEXX26LEXX19LEXX2LEXX15LE2XX14LE34XX123LE69XX53LE136XXED",
   "130XX29LE3XX49LE15XXED31XX32LE13XX30LE5XX38LE5ED5XX30LE2XX36LE4XX8LEXX5LE42XX158LE2XX10NU6XX",
   "36LE4XX36LE4XX40LE8XX52LE12XX11LEXX15LEXX7LEXX2LEXX11LEXX15LEXX7LEXX2LE3XX52LE12XX311LE9XX",
   "22LE10XX8LE24XX6LEXX42LEXX9LE69XX6LE2XXLEXX44LEXX2LE3XXLE2XX23LE10XX23LE9XX31LE65XX19LEXX2LE",
   "10XX22LE10XX26LE70XX56LE6XX2LE64XXLE3EDXX2ED5XX4ED4LEXX3LEXX29LE2XX3ED4XXED32XX29LE3XX29LE",
   "35XX8LEXX28LE2ED25XX54LE10XX22LE10XX19LE13XX18LE110XX73LE55XX51LE13XX51LE13XX36LE4ED8XX10NU",
   "6XX10NU28LE3XX5EDXX23LE250XX42LEXX2ED3XX2LE16XX3LE55XX4ED29LE10XXLE8XX22LE11ED31XX18LE4ED",
   "42XX21LE27XX23LE9XX3ED53LE15ED31XX10NUED2LE2EDLE9XX4ED45LE11ED2XXFO4XXED10XXFO2XX25LE7XX10NU",
   "6XX3ED36LE14EDXX10NU4XXLE2EDLE8XX35LEED2XXLE9XX3ED48LE14ED4LE4XX4EDXX2ED10NULEXXLE35XX18LEXX",
   "25LE12ED6XXED2LEED62XX7LEXXLEXX4LEXX15LEXX10LE7XX47LE12ED5XX10NU6XX4EDXX8LE2XX2LE2XX22LEXX",
   "7LEXX2LEXX5LEXX2EDLE7ED2XX2ED2XX3ED2XXLE6XXED5XX5LE2ED2XX7ED3XX5ED11XX10LEXXLE2XXLEXX38LEXX",
   "LE9EDXXED2XXEDXX4EDXX5EDLEEDLE13XX2ED29XX53LE18ED4LE5XX10NU4XXED3LE30XX48LE20ED2LEXXLE8XX",
   "10NU166XX47LE7ED2XX9ED23XX4LE2ED34XX48LE17ED3XXLE11XX10NU38XX43LE13EDLE7XX10NU6XX20NU57XX",
   "15ED4XX10NU198XX44LE15ED101XX64LE10NU21XX8LE2XXLE2XX8LEXX2LEXX24LE6EDXX2ED2XX4EDLEEDLE2ED",
   "12XX10NU70XX8LE2XX39LE7ED2XX7EDLEXXLEED27XXLE10ED40LE7EDLE4ED8XXED8XXLE11ED46LE16ED3XXLE18XX",
   "73LE199XX33LE15XX10NU6XX9LEXX37LE8EDXX8EDLE15XX10NU24XX30LE2XX22EDXX14ED73XX7LEXX2LEXX38LE",
   "6ED3XXEDXX2EDXX7EDLEED8XX10NU6XX6LEXX2LEXX32LE5EDXX2EDXX5EDLE7XX10NU310XX19LE4ED9XX2EDLEED",
   "13LEXX34LE7ED3XX5ED13XX10NUED85XXLE79XX922LE102XX111LE17XX196LE2636XX97LE15XX1072LE16FOED6LE",
   "15ED10XX3995LE5XX583LE6841XX30LE18ED10NU1734XX569LE7XX31LEXX10NU6XX79LEXX10NU6XX30LE2XX5ED",
   "11XX48LE7ED9XX4LE12XX10NU9XX21LE5XX19LE432XX45LE3XX10NU198XX64LE128XX75LE4XXEDLE55ED7XX4ED",
   "13LE64XX2LEXXLEED11XX2ED16382XX4KAXX7KAXX2KAXXKA287XX3KA50XXKA14XX4KA2712XX107LE5XX13LE3XX",
   "9LE7XX10LE3XX2EDXX4FO4172XX10NU518XX46ED2XX23ED542XX5ED3XX6ED8FO8ED2XX7ED30XX4ED148XX3ED",
   "443XX85LEXX71LEXX2LE2XXLE2XX2LE2XX4LEXX12LEXXLEXX7LEXX65LEXX4LE2XX8LEXX7LEXX28LEXX4LEXX5LEXX",
   "LE3XX7LEXX340LE2XX25LEXX25LEXX31LEXX25LEXX31LEXX25LEXX31LEXX25LEXX31LEXX25LEXX8LE2XX50NU",
   "512XX55ED4XX50ED8XXED14XXED22XX5EDXX15ED1104XX31LE6XX6LE213XX7EDXX17ED2XX7EDXX2EDXX5ED5XX",
   "62LE33XXED112XX45LE3XX7ED7LE2XX10NU4XXLE321XX30LEED17XX44LE4ED10NU470XX28LE4ED10NU214XX30LE",
   "2EDLE10NU485XX7LEXX4LEXX2LEXX15LEXX197LE11XX7ED41XX68LE7EDLE4XX10NU1190XX4LEXX27LEXX2LEXXLE",
   "2XXLEXX10LEXX4LEXXLEXXLE6XXLE4XXLEXXLEXXLEXX3LEXX2LEXXLE2XXLEXXLEXXLEXXLEXXLEXX2LEXXLE2XX4LE",
   "XX7LEXX4LEXX4LEXXLEXX10LEXX17LE5XX3LEXX5LEXX17LE628XX26LE6XX26LE6XX26LE92XX26RI507XX5ED",
   "2032XX10NU787463XXFO30XX96ED128XX240ED196112XX"]

/-- The runs of Sentence_Break. -/
def sentenceRuns : List Run := readRuns 2
  ["9XXSPLF2SPCR18XXSPSTCL4XX3CL2XX2SCATXX10NUSC4XXSTXX26UPCLXXCL3XX26LOCLXXCL7XXSE26XXSP9XXLOCL",
   "XXFO7XXLO4XXLOCL4XX23UPXX7UP24LOXX8LOUPLOUPLOUPLOUPLOUPLOUPLOUPLOUPLOUPLOUPLOUPLOUPLOUPLOUP",
   "LOUPLOUPLOUPLOUPLOUPLOUPLOUPLOUPLOUPLOUPLOUPLOUPLOUPLOUP2LOUPLOUPLOUPLOUPLOUPLOUPLOUPLOUP2LO",
   "UPLOUPLOUPLOUPLOUPLOUPLOUPLOUPLOUPLOUPLOUPLOUPLOUPLOUPLOUPLOUPLOUPLOUPLOUPLOUPLOUPLOUPLOUPLO",
   "2UPLOUPLOUP3LO2UPLOUPLO2UPLO3UP2LO4UPLO2UPLO3UP3LO2UPLO2UPLOUPLOUPLO2UPLOUP2LOUPLO2UPLO3UPLO",
   "UPLO2UP2LOLEUP3LO4LE2UPLO2UPLO2UPLOUPLOUPLOUPLOUPLOUPLOUPLOUPLOUP2LOUPLOUPLOUPLOUPLOUPLOUPLO",
   "UPLOUPLOUP2LO2UPLOUPLO3UPLOUPLOUPLOUPLOUPLOUPLOUPLOUPLOUPLOUPLOUPLOUPLOUPLOUPLOUPLOUPLOUPLO",
   "UPLOUPLOUPLOUPLOUPLOUPLOUPLOUPLOUPLOUPLOUPLOUPLOUP7LO2UPLO2UP2LOUPLO4UPLOUPLOUPLOUPLOUP69LO",
   "LE36LO7LE2LO4XX12LE14XX5LO7XXLEXXLE17XX112EXUPLOUPLOLEXXUPLO2XX4LOXXUP6XXUPXX3UPXXUPXX2UPLO",
   "17UPXX9UP35LOUP2LO3UP3LOUPLOUPLOUPLOUPLOUPLOUPLOUPLOUPLOUPLOUPLOUPLOUP5LOUPLOXXUPLO2UP2LO",
   "51UP48LOUPLOUPLOUPLOUPLOUPLOUPLOUPLOUPLOUPLOUPLOUPLOUPLOUPLOUPLOUPLOUPLOUPLOXX7EXUPLOUPLOUP",
   "LOUPLOUPLOUPLOUPLOUPLOUPLOUPLOUPLOUPLOUPLOUPLOUPLOUPLOUPLOUPLOUPLOUPLOUPLOUPLOUPLOUPLOUPLOUP",
   "LOUPLO2UPLOUPLOUPLOUPLOUPLOUPLOUP2LOUPLOUPLOUPLOUPLOUPLOUPLOUPLOUPLOUPLOUPLOUPLOUPLOUPLOUPLO",
   "UPLOUPLOUPLOUPLOUPLOUPLOUPLOUPLOUPLOUPLOUPLOUPLOUPLOUPLOUPLOUPLOUPLOUPLOUPLOUPLOUPLOUPLOUPLO",
   "UPLOUPLOUPLOUPLOUPLOUPLOUPLOUPLOUPLOUPLOUPLOXX38UP2XXLE3XXSC2XX41LOST7XX45EXXXEXXX2EXXX2EXXX",
   "EX8XX27LE4XX5LE12XX6FO6XX2SC2XX11EXXXFO3ST43LE21EX10NUXX2NUXX2LEEX99LESTLE7EXFOXX6EX2LE2EXXX",
   "4EX2LE10NU3LE2XXLE3ST12XXFOLEEX30LE27EX2XX89LE11EXLE14XX10NU33LE9EX2LE2XXSCSTLE2XXEX2XX22LE",
   "4EXLE9EXLE3EXLE5EX9XXSTXXST3XX2STXX25LE3EX4XX11LE5XX24LEXX6LEXX2FO5XX9EX42LE24EXFO33EX54LE",
   "3EXLE18EXLE7EX10LE2EX2ST10NUXX16LE3EXXX8LE2XX2LE2XX22LEXX7LEXXLE3XX4LE2XXEXLE7EX2XX2EX2XX3EX",
   "LE8XXEX4XX2LEXX3LE2EX2XX10NU2LE10XXLEXXEX2XX3EXXX6LE4XX2LE2XX22LEXX7LEXX2LEXX2LEXX2LE2XXEXXX",
   "5EX4XX2EX2XX3EX3XXEX7XX4LEXXLE7XX10NU2EX3LEEX11XX3EXXX9LEXX3LEXX22LEXX7LEXX2LEXX5LE2XXEXLE",
   "8EXXX3EXXX3EX2XXLE15XX2LE2EX2XX10NU9XXLE6EXXX3EXXX8LE2XX2LE2XX22LEXX7LEXX2LEXX5LE2XXEXLE7EX",
   "2XX2EX2XX3EX7XX3EX4XX2LEXX3LE2EX2XX10NUXXLE16XXEXLEXX6LE3XX3LEXX4LE3XX2LEXXLEXX2LE3XX2LE3XX",
   "3LE3XX12LE4XX5EX3XX3EXXX4EX2XXLE6XXEX14XX10NU16XX5EX8LEXX3LEXX23LEXX16LE2XXEXLE7EXXX3EXXX4EX",
   "7XX2EXXX3LE2XXLE2XX2LE2EX2XX10NU16XXLE3EXXX8LEXX3LEXX23LEXX10LEXX5LE2XXEXLE7EXXX3EXXX4EX7XX",
   "2EX6XX2LEXX2LE2EX2XX10NUXX2LEEX12XX4EX9LEXX3LEXX41LE2EXLE7EXXX3EXXX4EXLE5XX3LEEX7XX3LE2EX2XX",
   "10NU10XX6LEXX3EXXX18LE3XX24LEXX9LEXXLE2XX7LE3XXEX4XX6EXXXEXXX8EX6XX10NU2XX2EX13XX48LEEX2LE",
   "7EX5XX7LE8EXXX10NU39XX2LEXXLEXX5LEXX24LEXXLEXX10LEEX2LE9EXLE2XX5LEXXLEXX7EXXX10NU2XX4LE32XX",
   "LE23XX2EX6XX10NU11XXEXXXEXXXEX4CL2EX8LEXX36LE4XX20EXXX2EX5LE11EXXX36EX9XXEX57XX43LE20EXLE",
   "10NU2ST4XX6LE4EX4LE3EXLE3EX2LE7EX3LE4EX13LE12EXLEEX10NU4EX2XX38UPXXUP5XXUP2XX43LEXXLO332LEXX",
   "4LE2XX7LEXXLEXX4LE2XX41LEXX4LE2XX33LEXX4LE2XX7LEXXLEXX4LE2XX15LEXX57LEXX4LE2XX67LE2XX3EX2XX",
   "ST4XX2ST23XX16LE16XX86UP2XX6LO3XX620LEXXST17LESP26LE2CL3XX75LE3XX11LE7XX18LE4EX9XX19LE3EX2ST",
   "9XX18LE2EX12XX13LEXX3LEXX2EX12XX52LE32EX3XXLE4XXLEEX2XX10NU24XXSCST4XXSCSTXX3EXFOEX10NU6XX",
   "89LE7XX5LE2EX34LEEXLE5XX70LE10XX31LEXX12EX4XX12EX8XX2ST10NU30LE2XX5LE11XX44LE4XX26LE6XX10NU",
   "38XX23LE5EX4XX53LE10EXXX29EX2XXEX10NU6XX10NU13XXLE4ST4XX31EX49XX5EX47LE17EX8LEXX2ST10NU2ST",
   "2XX2ST11XX9EX9XX3ST3EX30LE13EX2LE10NU44LE14EX12XX36LE20EX3XX2ST3XX10NU3XX3LE10NU36LE2ST9LOUP",
   "LO5XX43LE2XX3LE16XX3EXXX21EX4LEEX6LEEX2LE3EXLE5XX192LO64EXUPLOUPLOUPLOUPLOUPLOUPLOUPLOUPLOUP",
   "LOUPLOUPLOUPLOUPLOUPLOUPLOUPLOUPLOUPLOUPLOUPLOUPLOUPLOUPLOUPLOUPLOUPLOUPLOUPLOUPLOUPLOUPLOUP",
   "LOUPLOUPLOUPLOUPLOUPLOUPLOUPLOUPLOUPLOUPLOUPLOUPLOUPLOUPLOUPLOUPLOUPLOUPLOUPLOUPLOUPLOUPLOUP",
   "LOUPLOUPLOUPLOUPLOUPLOUPLOUPLOUPLOUPLOUPLOUPLOUPLOUPLOUPLOUPLOUPLOUPLOUPLOUPLOUP9LOUPLOUPLO",
   "UPLOUPLOUPLOUPLOUPLOUPLOUPLOUPLOUPLOUPLOUPLOUPLOUPLOUPLOUPLOUPLOUPLOUPLOUPLOUPLOUPLOUPLOUPLO",
   "UPLOUPLOUPLOUPLOUPLOUPLOUPLOUPLOUPLOUPLOUPLOUPLOUPLOUPLOUPLOUPLOUPLOUPLOUPLOUPLOUPLOUPLOUPLO",
   "UP9LO8UP6LO2XX6UP2XX8LO8UP8LO8UP6LO2XX6UP2XX8LOXXUPXXUPXXUPXXUP8LO8UP14LO2XX8LO8UP8LO8UP8LO",
   "8UP5LOXX2LO5UPXXLO3XX3LOXX2LO5UP3XX4LO2XX2LO4UP4XX8LO5UP5XX3LOXX2LO5UP3XX11SPFO2EX2FO3XX2SC",
   "3XX8CL4XXAT3XX2SE5FOSP9XX2CLXX2ST7XX2CL3ST21XXSP5FOXX10FOXXLO11XX2CLLO13XX2CLXX13LO51XX33EX",
   "17XXUP4XXUP2XXLO3UP2LO3UPLOXXUP3XX5UP6XXUPXXUPXXUPXX4UPXXLO4UPLO4LELO2XX2LO2UP5XXUP4LO4XXLO",
   "17XX16UP16LO3LEUPLO4LE383XX4CL29XX2CL395XX26UP26LO625XX6CL7XX14CL79XX2CL31XX10CL403XX22CL",
   "63XX4CL32XX2CL514XX48UP48LOUPLO3UP2LOUPLOUPLOUPLO4UPLOUP2LOUP8LO3UPLOUPLOUPLOUPLOUPLOUPLOUP",
   "LOUPLOUPLOUPLOUPLOUPLOUPLOUPLOUPLOUPLOUPLOUPLOUPLOUPLOUPLOUPLOUPLOUPLOUPLOUPLOUPLOUPLOUPLOUP",
   "LOUPLOUPLOUPLOUPLOUPLOUPLOUPLOUPLOUPLOUPLOUPLOUPLOUPLOUPLOUPLOUPLOUPLOUPLOUPLOUP2LO6XXUPLOUP",
   "LO3EXUPLO12XX38LOXXLO5XXLO2XX56LE7XXLE15XXEX23LE9XX7LEXX7LEXX7LEXX7LEXX7LEXX7LEXX7LEXX7LEXX",
   "32EX14CL14XX2CL2XX10CL4XXSTLE12XXST5XXCL16XX2ST8CL419XXSPSCST2XX3LE10CL2XX8CLXX3CLXX9LE6EXXX",
   "5LE2XX5LE4XX86LE2XX2EX2XX3LEXX90LEXX4LE5XX43LEXX94LE17XX32LE48XX16LE512XX6592LE64XX22157LE",
   "67XX46LEXXST269LEXX2ST16LE10NU2LE20XXUPLOUPLOUPLOUPLOUPLOUPLOUPLOUPLOUPLOUPLOUPLOUPLOUPLOUP",
   "LOUPLOUPLOUPLOUPLOUPLOUPLOUPLOUPLOUPLOLE4EXXX10EXXXLEUPLOUPLOUPLOUPLOUPLOUPLOUPLOUPLOUPLOUP",
   "LOUPLOUPLOUPLOUP3LO2EX80LE2EXXXST3XXST31XX9LE2XXUPLOUPLOUPLOUPLOUPLOUPLOUP3LOUPLOUPLOUPLOUP",
   "LOUPLOUPLOUPLOUPLOUPLOUPLOUPLOUPLOUPLOUPLOUPLOUPLOUPLOUPLOUPLOUPLOUPLOUPLOUPLOUPLOUPLOUPLOUP",
   "LOUPLOUPLOUPLOUP10LOUPLOUPLO2UPLOUPLOUPLOUPLOUPLOLE2XXUPLOUPLOLEUPLOUP3LOUPLOUPLOUPLOUPLOUP",
   "LOUPLOUPLOUPLOUPLOUPLO5UPLO5UPLOUPLOUPLOUPLOUPLOUPLOUPLOUPLO4UPLOUPLO2UPLO2XXUPLOXXLOXXLOUP",
   "LOUPLOUPLOUP21XX3LOUPLOLE3LO7LEEX3LEEX4LEEX23LE5EX4XXEX19XX52LE2XX2ST8XX2EX50LE18EX8XX2ST",
   "10NU6XX18EX6LE3XXLEXX2LEEX10NU28LE8EXXXST23LE13EX12XX29LE3XX4EX47LE14EX7XX2ST5XXLE10NU6XX5LE",
   "EX10LE10NU5LEXX41LE14EX9XX3LEEX8LE2EX2XX10NU3XX3ST23LE3XXLE3EX50LEEXLE3EX2LE2EX5LE2EXLEEXLE",
   "24XX3LE2XX11LE5EX2ST3LE2EX10XX6LE2XX6LE2XX6LE9XX7LEXX7LEXX43LOXX14LO6XX80LO35LE8EXST2EX2XX",
   "10NU6XX11172LE12XX23LE4XX49LE8452XX366LE2XX106LE38XX7LO12XX5LO5XXLEEX10LEXX13LEXX5LEXXLEXX",
   "2LEXX2LEXX108LE33XX363LE2CL16XX64LE2XX54LE40XX12LE4XX16EX2SCXXSC3XX2CL7XX16EXXX2SC2XX16CL2XX",
   "2CL7XX2SCAT2XXSC2STSC6CL4XXSC12XX5LEXX135LE2XXFOXXST6XX2CL2XX2SCATXX10NUSC4XXSTXX26UPCLXXCL",
   "3XX26LOCLXXCLXX2CLST2CLSCXX56LE2EX31LE3XX6LE2XX6LE2XX6LE2XX3LE28XX3FO4XX12LEXX26LEXX19LEXX",
   "2LEXX15LE2XX14LE34XX123LE69XX53LE136XXEX130XX29LE3XX49LE15XXEX31XX32LE13XX30LE5XX38LE5EX5XX",
   "30LE2XX36LE4XX8LEXX5LE42XX40UP40LO78LE2XX10NU6XX36UP4XX36LO4XX40LE8XX52LE12XX11UPXX15UPXX7UP",
   "XX2UPXX11LOXX15LOXX7LOXX2LO3XX52LE12XX311LE9XX22LE10XX8LE24XXLO2LE3LOXX42LOXX9LO69XX6LE2XXLE",
   "XX44LEXX2LE3XXLE2XX23LE10XX23LE9XX31LE65XX19LEXX2LE10XX22LE10XX26LE70XX56LE6XX2LE64XXLE3EXXX",
   "2EX5XX4EX4LEXX3LEXX29LE2XX3EX4XXEX22XX2ST8XX29LE3XX29LE35XX8LEXX28LE2EX25XX54LE10XX22LE10XX",
   "19LE13XX18LE110XX73LE55XX51UP13XX51LO13XX36LE4EX8XX10NU6XX10NU6LE22UP3XX5EXXXLE22LO250XX42LE",
   "XX2EX3XX2LE16XX3LE55XX4EX29LE10XXLE8XX22LE11EX4XX5ST22XX18LE4EX4ST38XX21LE27XX23LE9XX3EX53LE",
   "15EX2ST29XX10NUEX2LE2EXLE9XX4EX45LE11EX2XXFO4STEX10XXFO2XX25LE7XX10NU6XX3EX36LE14EXXX10NUXX",
   "3STLE2EXLE8XX35LEEX2XXLE9XX3EX48LE14EX4LE2ST2XX4EXST2EX10NULEXXLEXX2ST32XX18LEXX25LE12EX2ST",
   "XX2STXXEX2LEEX62XX7LEXXLEXX4LEXX15LEXX10LEST6XX47LE12EX5XX10NU6XX4EXXX8LE2XX2LE2XX22LEXX7LE",
   "XX2LEXX5LEXX2EXLE7EX2XX2EX2XX3EX2XXLE6XXEX5XX5LE2EX2XX7EX3XX5EX11XX10LEXXLE2XXLEXX38LEXXLE",
   "9EXXXEX2XXEXXX4EXXX5EXLEEXLE2ST11XX2EX29XX53LE18EX4LE2ST3XX10NU4XXEX3LE30XX48LE20EX2LEXXLE",
   "8XX10NU166XX47LE7EX2XX9EXXX2ST5XX15ST4LE2EX34XX48LE17EX2STXXLE11XX10NU38XX43LE13EXLE7XX10NU",
   "6XX20NU28XX27LE2XX15EX4XX10NU2XX3STXX7LE185XX44LE15EX101XX32UP32LO10NU21XX8LE2XXLE2XX8LEXX",
   "2LEXX24LE6EXXX2EX2XX4EXLEEXLE2EXSTXXST9XX10NU70XX8LE2XX39LE7EX2XX7EXLEXXLEEX27XXLE10EX40LE",
   "7EXLE4EX3XX2ST3XXEX8XXLE11EX46LE16EXXX2STLE18XX73LE199XX33LE15XX10NU6XX9LEXX37LE8EXXX8EXLE",
   "2ST13XX10NU24XX30LE2XX22EXXX14EX73XX7LEXX2LEXX38LE6EX3XXEXXX2EXXX7EXLEEX8XX10NU6XX6LEXX2LEXX",
   "32LE5EXXX2EXXX5EXLE7XX10NU310XX19LE4EX2ST7XX2EXLEEX13LEXX34LE7EX3XX5EX2ST11XX10NUEX85XXLE",
   "79XX922LE102XX111LE17XX196LE2636XX97LE15XX1072LE16FOEX6LE15EX10XX3995LE5XX583LE6841XX30LE",
   "18EX10NU1734XX569LE7XX31LEXX10NU4XX2ST79LEXX10NU6XX30LE2XX5EXST10XX48LE7EX2ST7XX4LEST11XX",
   "10NU9XX21LE5XX19LE432XX45LEXX2ST10NU198XX32UP32LO24XXST103XX75LE4XXEXLE55EX7XX4EX13LE64XX2LE",
   "XXLEEX11XX2EX14XX6136LE8XX1238LE41XX10LE8935XX4LEXX7LEXX2LEXX291LE15XXLE29XX3LE2XXLE14XX4LE",
   "8XX396LE2308XX107LE5XX13LE3XX9LE7XX10LE3XX2EXST4FO4172XX10NU518XX46EX2XX23EX542XX5EX3XX6EX",
   "8FO8EX2XX7EX30XX4EX148XX3EX443XX26UP26LO26UP7LOXX18LO26UP26LOUPXX2UP2XXUP2XX2UP2XX4UPXX8UP",
   "4LOXXLOXX7LOXX11LO26UP26LO2UPXX4UP2XX8UPXX7UPXX26LO2UPXX4UPXX5UPXXUP3XX7UPXX26LO26UP26LO26UP",
   "26LO26UP26LO26UP26LO26UP26LO26UP28LO2XX25UPXX25LOXX6LO25UPXX25LOXX6LO25UPXX25LOXX6LO25UPXX",
   "25LOXX6LO25UPXX25LOXX6LOUPLO2XX50NU512XX55EX4XX50EX8XXEX14XXEX3XXST18XX5EXXX15EX1104XX10LOLE",
   "20LO6XX6LO213XX7EXXX17EX2XX7EXXX2EXXX5EX5XX62LO33XXEX112XX45LE3XX7EX7LE2XX10NU4XXLE321XX30LE",
   "EX17XX44LE4EX10NU470XX28LE4EX10NU214XX30LE2EXLE10NU485XX7LEXX4LEXX2LEXX15LEXX197LE11XX7EX",
   "41XX34UP34LO7EXLE4XX10NU1190XX4LEXX27LEXX2LEXXLE2XXLEXX10LEXX4LEXXLEXXLE6XXLE4XXLEXXLEXXLEXX",
   "3LEXX2LEXXLE2XXLEXXLEXXLEXXLEXXLEXX2LEXXLE2XX4LEXX7LEXX4LEXX4LEXXLEXX10LEXX17LE5XX3LEXX5LEXX",
   "17LE628XX26UP6XX26UP6XX26UP1260XX3CL1399XX10NU1030XX42720LE32XX4154LE6XX222LE2XX5762LE14XX",
   "7473LE15XX622LE2466XX542LE1506XX4939LE5XX4192LE711761XXFO30XX96EX128XX240EX196112XX"]

/-- The names of the values of Grapheme_Cluster_Break in loose form. -/
def graphemeNames : List (String × List String) :=
  [("CN", ["cn", "control"]), ("CR", ["cr"]), ("EX", ["ex", "extend"]), ("LL", ["l"]),
   ("LF", ["lf"]), ("LV", ["lv"]), ("LT", ["lvt"]), ("PP", ["pp", "prepend"]),
   ("RI", ["ri", "regionalindicator"]), ("SM", ["sm", "spacingmark"]), ("TT", ["t"]),
   ("VV", ["v"]), ("ZW", ["zwj"])]

/-- The names of the values of Word_Break in loose form. -/
def wordNames : List (String × List String) :=
  [("CR", ["cr"]), ("DQ", ["dq", "doublequote"]), ("EX", ["ex", "extendnumlet"]),
   ("ED", ["extend"]), ("FO", ["fo", "format"]), ("HL", ["hl", "hebrewletter"]),
   ("KA", ["ka", "katakana"]), ("LE", ["le", "aletter"]), ("LF", ["lf"]),
   ("MB", ["mb", "midnumlet"]), ("ML", ["ml", "midletter"]), ("MN", ["mn", "midnum"]),
   ("NL", ["nl", "newline"]), ("NU", ["nu", "numeric"]), ("RI", ["ri", "regionalindicator"]),
   ("SQ", ["sq", "singlequote"]), ("WS", ["wsegspace"]), ("ZW", ["zwj"])]

/-- The names of the values of Sentence_Break in loose form. -/
def sentenceNames : List (String × List String) :=
  [("AT", ["at", "aterm"]), ("CL", ["cl", "close"]), ("CR", ["cr"]), ("EX", ["ex", "extend"]),
   ("FO", ["fo", "format"]), ("LE", ["le", "oletter"]), ("LF", ["lf"]), ("LO", ["lo", "lower"]),
   ("NU", ["nu", "numeric"]), ("SC", ["sc", "scontinue"]), ("SE", ["se", "sep"]),
   ("SP", ["sp"]), ("ST", ["st", "sterm"]), ("UP", ["up", "upper"])]

/-- The code of a value given by one of its names in loose form. -/
def code? (names : List (String × List String)) (name : String) : Option String :=
  (names.find? fun entry => entry.2.contains name).map Prod.fst

/-- The first code points of the syllables without a trailing consonant. -/
def openSyllables : List (Nat × Nat) :=
  (List.range 399).map fun index => (0xAC00 + 28 * index, 0xAC00 + 28 * index)

/-- The precomposed Hangul syllables. -/
def syllables : Charset := ⟨[(0xAC00, 0xD7A3)]⟩

/-- The characters with a value of Grapheme_Cluster_Break. -/
def graphemeOfName? (name : String) : Option Charset :=
  (code? graphemeNames name).map fun code =>
    if code = "LV" then Charset.ofRanges openSyllables
    else if code = "LT" then syllables.difference (Charset.ofRanges openSyllables)
    else runsWhere graphemeRuns fun other => other = code

/-- The characters with a value of Word_Break. -/
def wordOfName? (name : String) : Option Charset :=
  (code? wordNames name).map fun code => runsWhere wordRuns fun other => other = code

/-- The characters with a value of Sentence_Break. -/
def sentenceOfName? (name : String) : Option Charset :=
  (code? sentenceNames name).map fun code => runsWhere sentenceRuns fun other => other = code

end Dashboard.Unicode.Break
