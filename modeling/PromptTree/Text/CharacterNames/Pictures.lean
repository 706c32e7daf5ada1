/-!
# Names of notes and pictures

The names of Unicode 14 for code points from 0x1D000 on:
notations, mathematical letters and pictures.

## Main Definitions

* `pictureNames` — the names of the characters of each run of code points.

## Design Notes

A name begins with a small letter that tells how many parts it has in common with the name
before it in the run, from `a` for none on; the other parts follow.  A part begins at a space
or at a hyphen.
-/

namespace PromptTree.Text

/-- The names of runs of code points, each run with its first code point. -/
def pictureNames : List (Nat × List String) :=
  [(0x1D000, ["aBYZANTINE MUSICAL SYMBOL PSILId DASEIAd PERISPOMENId OXEIA EKFONITIKONe DIPLI",
      "d VAREIA EKFONITIKONe DIPLId KATHISTId SYRMATIKId PARAKLITIKId YPOKRISISe DIPLI",
      "d KREMASTId APESO EKFONITIKONd EXO EKFONITIKONd TELEIAd KENTIMATAd APOSTROFOSe DIPLI",
      "d SYNEVMAd THITAd OLIGON ARCHAIONd GORGON ARCHAIONd PSILONd CHAMILONd VATHY",
      "d ISON ARCHAIONd KENTIMA ARCHAIONd KENTIMATA ARCHAIONd SAXIMATAd PARICHON",
      "d STAVROS APODEXIAd OXEIAI ARCHAIONd VAREIAI ARCHAIONd APODERMA ARCHAIONd APOTHEMA",
      "d KLASMAd REVMAd PIASMA ARCHAIONd TINAGMAd ANATRICHISMAd SEISMAd SYNAGMA ARCHAION",
      "e META STAVROUd OYRANISMA ARCHAIONd THEMAd LEMOId DYOd TRIAd TESSERAd KRATIMATA",
      "d APESO EXO NEOd FTHORA ARCHAIONd IMIFTHORAd TROMIKON ARCHAIONd KATAVA TROMIKON",
      "d PELASTONd PSIFISTONd KONTEVMAd CHOREVMA ARCHAIONd RAPISMAd PARAKALESMA ARCHAION",
      "d PARAKLITIKI ARCHAIONd ICHADINd NANAd PETASMAd KONTEVMA ALLOd TROMIKON ALLO",
      "d STRAGGISMATAd GRONTHISMATAd ISON NEOd OLIGON NEOd OXEIA NEOd PETASTId KOUFISMA",
      "d PETASTOKOUFISMAd KRATIMOKOUFISMAd PELASTON NEOd KENTIMATA NEO ANOd KENTIMA NEO ANO",
      "d YPSILId APOSTROFOS NEOd APOSTROFOI SYNDESMOS NEOd YPORROId KRATIMOYPORROONd ELAFRON",
      "d CHAMILId MIKRON ISONd VAREIA NEOd PIASMA NEOd PSIFISTON NEOd OMALONd ANTIKENOMA",
      "d LYGISMAd PARAKLITIKI NEOd PARAKALESMA NEOd ETERON PARAKALESMAd KYLISMA",
      "d ANTIKENOKYLISMAd TROMIKON NEOd EKSTREPTONd SYNAGMA NEOd SYRMAd CHOREVMA NEOd EPEGERMA",
      "d SEISMA NEOd XIRON KLASMAd TROMIKOPSIFISTONd PSIFISTOLYGISMAd TROMIKOLYGISMA",
      "d TROMIKOPARAKALESMAd PSIFISTOPARAKALESMAd TROMIKOSYNAGMAd PSIFISTOSYNAGMA",
      "d GORGOSYNTHETONd ARGOSYNTHETONd ETERON ARGOSYNTHETONd OYRANISMA NEOd THEMATISMOS ESO",
      "e EXOd THEMA APLOUNd THES KAI APOTHESd KATAVASMAd ENDOFONONd YFEN KATOe ANOd STAVROS",
      "d KLASMA ANOd DIPLI ARCHAIONd KRATIMA ARCHAIONe ALLOe NEOd APODERMA NEOd APLId DIPLI",
      "d TRIPLId TETRAPLId KORONISd LEIMMA ENOS CHRONOUe DYO CHRONONe TRION CHRONON",
      "e TESSARON CHRONONe IMISEOS CHRONOUd GORGON NEO ANOe PARESTIGMENON ARISTERAf DEXIA",
      "d DIGORGONe PARESTIGMENON ARISTERA KATOg ANOf DEXIAd TRIGORGONd ARGONd IMIDIARGON",
      "d DIARGONd AGOGI POLI ARGIe ARGOTERIe ARGIe METRIAe MESIe GORGIe GORGOTERIe POLI GORGI",
      "d MARTYRIA PROTOS ICHOSe ALLI PROTOS ICHOSe DEYTEROS ICHOSe ALLI DEYTEROS ICHOS",
      "e TRITOS ICHOSe TRIFONIASe TETARTOS ICHOSf LEGETOS ICHOSe LEGETOS ICHOSe PLAGIOS ICHOS",
      "d ISAKIA TELOUS ICHIMATOSd APOSTROFOI TELOUS ICHIMATOSd FANEROSIS TETRAFONIAS",
      "e MONOFONIASe DIFONIASd MARTYRIA VARYS ICHOSe PROTOVARYS ICHOSe PLAGIOS TETARTOS ICHOS",
      "d GORTHMIKON N APLOUNf DIPLOUNd ENARXIS KAI FTHORA VOUd IMIFONONd IMIFTHORON",
      "d FTHORA ARCHAION DEYTEROU ICHOUe DIATONIKI PAf NANAe NAOS ICHOSe DIATONIKI DI",
      "e SKLIRON DIATONON DIe DIATONIKI KEf ZOf NI KATOg ANOe MALAKON CHROMA DIFONIAS",
      "g MONOFONIASd FHTORA SKLIRON CHROMA VASISd FTHORA SKLIRON CHROMA SYNAFIe NENANO",
      "d CHROA ZYGOSe KLITONe SPATHId FTHORA I YFESIS TETARTIMORIONe ENARMONIOS ANTIFONIA",
      "d YFESIS TRITIMORIONd DIESIS TRITIMORIONe TETARTIMORIONe APLI DYO DODEKATA",
      "e MONOGRAMMOS TESSERA DODEKATAe DIGRAMMOS EX DODEKATAe TRIGRAMMOS OKTO DODEKATA",
      "d YFESIS APLI DYO DODEKATAe MONOGRAMMOS TESSERA DODEKATAe DIGRAMMOS EX DODEKATA",
      "e TRIGRAMMOS OKTO DODEKATAd GENIKI DIESISe YFESISd DIASTOLI APLI MIKRIf MEGALIe DIPLI",
      "e THESEOSd SIMANSIS THESEOSf DISIMOUf TRISIMOUf TETRASIMOUe ARSEOSf DISIMOUf TRISIMOU",
      "f TETRASIMOUd DIGRAMMA GGd DIFTOGGOS OUd STIGMAd ARKTIKO PAe VOUe GAe DIe KEe ZOe NI",
      "d KENTIMATA NEO MESOd KENTIMA NEO MESOd KENTIMATA NEO KATOd KENTIMA NEO KATO",
      "d KLASMA KATOd GORGON NEO KATO"]),
   (0x1D100, ["aMUSICAL SYMBOL SINGLE BARLINEc DOUBLE BARLINEc FINAL BARLINE",
      "c REVERSE FINAL BARLINEc DASHED BARLINEc SHORT BARLINEc LEFT REPEAT SIGN",
      "c RIGHT REPEAT SIGNc REPEAT DOTSc DAL SEGNOc DA CAPOc SEGNOc CODAc REPEATED FIGURE-1e-2",
      "e-3c FERMATAd BELOWc BREATH MARKc CAESURAc BRACEc BRACKETc ONE-LINE STAFF",
      "c TWO-LINE STAFFc THREE-LINE STAFFc FOUR-LINE STAFFc FIVE-LINE STAFFc SIX-LINE STAFF",
      "d-STRING FRETBOARDc FOUR-STRING FRETBOARDc G CLEFe OTTAVA ALTAf BASSAc C CLEFc F CLEF",
      "e OTTAVA ALTAf BASSAc DRUM CLEF-1e-2"]),
   (0x1D129, ["aMUSICAL SYMBOL MULTIPLE MEASURE RESTc DOUBLE SHARPd FLATc FLAT UPd DOWN",
      "c NATURAL UPd DOWNc SHARP UPd DOWNc QUARTER TONE SHARPe FLATc COMMON TIMEc CUT TIME",
      "c OTTAVA ALTAd BASSAc QUINDICESIMA ALTAd BASSAc MULTI RESTc WHOLE RESTc HALF REST",
      "c QUARTER RESTc EIGHTH RESTc SIXTEENTH RESTc THIRTY-SECOND RESTc SIXTY-FOURTH REST",
      "c ONE HUNDRED TWENTY-EIGHTH RESTc X NOTEHEADc PLUS NOTEHEADc CIRCLE X NOTEHEAD",
      "c SQUARE NOTEHEAD WHITEe BLACKc TRIANGLE NOTEHEAD UP WHITEf BLACKe LEFT WHITEf BLACK",
      "e RIGHT WHITEf BLACKe DOWN WHITEf BLACKe UP RIGHT WHITEg BLACKc MOON NOTEHEAD WHITE",
      "e BLACKc TRIANGLE-ROUND NOTEHEAD DOWN WHITEg BLACKc PARENTHESIS NOTEHEADc VOID NOTEHEAD",
      "c NOTEHEAD BLACKc NULL NOTEHEADc CLUSTER NOTEHEAD WHITEe BLACKc BREVEc WHOLE NOTE",
      "c HALF NOTEc QUARTER NOTEc EIGHTH NOTEc SIXTEENTH NOTEc THIRTY-SECOND NOTE",
      "c SIXTY-FOURTH NOTEc ONE HUNDRED TWENTY-EIGHTH NOTEc COMBINING STEMd SPRECHGESANG STEM",
      "d TREMOLO-1e-2e-3c FINGERED TREMOLO-1e-2e-3c COMBINING AUGMENTATION DOTd FLAG-1e-2e-3e-4",
      "e-5c BEGIN BEAMc END BEAMc BEGIN TIEc END TIEc BEGIN SLURc END SLURc BEGIN PHRASE",
      "c END PHRASEc COMBINING ACCENTd STACCATOd TENUTOd STACCATISSIMOd MARCATOe-STACCATO",
      "d ACCENT-STACCATOd LOUREc ARPEGGIATO UPd DOWNc COMBINING DOITd RIPd FLIPd SMEARd BEND",
      "d DOUBLE TONGUEd TRIPLE TONGUEc RINFORZANDOc SUBITOc Zc PIANOc MEZZOc FORTEc CRESCENDO",
      "c DECRESCENDOc GRACE NOTE SLASHe NO SLASHc TRc TURNc INVERTED TURNc TURN SLASHd UP",
      "c ORNAMENT STROKE-1e-2e-3e-4e-5e-6e-7e-8e-9e-10e-11c HAUPTSTIMMEc NEBENSTIMME",
      "c END OF STIMMEc DEGREE SLASHc COMBINING DOWN BOWd UP BOWd HARMONICd SNAP PIZZICATO",
      "c PEDAL MARKd UP MARKc HALF PEDAL MARKc GLISSANDO UPd DOWNc WITH FINGERNAILSc DAMPd ALL",
      "c MAXIMAc LONGAc BREVISc SEMIBREVIS WHITEd BLACKc MINIMAd BLACKc SEMIMINIMA WHITEd BLACK",
      "c FUSA WHITEd BLACKc LONGA PERFECTA RESTd IMPERFECTA RESTc BREVIS RESTc SEMIBREVIS REST",
      "c MINIMA RESTc SEMIMINIMA RESTc TEMPUS PERFECTUM CUM PROLATIONE PERFECTAg IMPERFECTA",
      "g PERFECTA DIMINUTION-1d IMPERFECTUM CUM PROLATIONE PERFECTAg IMPERFECTAh DIMINUTION-1",
      "i-2i-3c CROIXc GREGORIAN C CLEFd F CLEFc SQUARE Bc VIRGAc PODATUSc CLIVISc SCANDICUS",
      "c CLIMACUSc TORCULUSc PORRECTUSd FLEXUSc SCANDICUS FLEXUSc TORCULUS RESUPINUS",
      "c PES SUBPUNCTISc KIEVAN C CLEFd END OF PIECEd FINAL NOTEd RECITATIVE MARKd WHOLE NOTE",
      "d HALF NOTEd QUARTER NOTE STEM DOWNg UPd EIGHTH NOTE STEM DOWNg UPd FLAT SIGNc SORI",
      "c KORON"]),
   (0x1D200, ["aGREEK VOCAL NOTATION SYMBOL-1e-2e-3e-4e-5e-6e-7e-8e-9e-10e-11e-12e-13e-14e-15",
      "e-16e-17e-18e-19e-20e-21e-22e-23e-24e-50e-51e-52e-53e-54b INSTRUMENTAL NOTATION SYMBOL-1",
      "e-2e-4e-5e-7e-8e-11e-12e-13e-14e-17e-18e-19e-23e-24e-25e-26e-27e-29e-30e-32e-36e-37e-38",
      "e-39e-40e-42e-43e-45e-47e-48e-49e-50e-51e-52e-53e-54aCOMBINING GREEK MUSICAL TRISEME",
      "d TETRASEMEd PENTASEMEaGREEK MUSICAL LEIMMA"]),
   (0x1D2E0, ["aMAYAN NUMERAL ZEROc ONEc TWOc THREEc FOURc FIVEc SIXc SEVENc EIGHTc NINEc TEN",
      "c ELEVENc TWELVEc THIRTEENc FOURTEENc FIFTEENc SIXTEENc SEVENTEENc EIGHTEENc NINETEEN"]),
   (0x1D300, ["aMONOGRAM FOR EARTHaDIGRAM FOR HEAVENLY EARTHc HUMAN EARTHc EARTHLY HEAVEN",
      "d HUMANc EARTHaTETRAGRAM FOR CENTREc FULL CIRCLEc MIREDc BARRIERc KEEPING SMALL",
      "c CONTRARIETYc ASCENTc OPPOSITIONc BRANCHING OUTc DEFECTIVENESS OR DISTORTION",
      "c DIVERGENCEc YOUTHFULNESSc INCREASEc PENETRATIONc REACHc CONTACTc HOLDING BACKc WAITING",
      "c FOLLOWINGc ADVANCEc RELEASEc RESISTANCEc EASEc JOYc CONTENTIONc ENDEAVOURc DUTIES",
      "c CHANGEc DECISIVENESSc BOLD RESOLUTIONc PACKINGc LEGIONc CLOSENESSc KINSHIPc GATHERING",
      "c STRENGTHc PURITYc FULLNESSc RESIDENCEc LAW OR MODELc RESPONSEc GOING TO MEET",
      "c ENCOUNTERSc STOVEc GREATNESSc ENLARGEMENTc PATTERNc RITUALc FLIGHT",
      "c VASTNESS OR WASTINGc CONSTANCYc MEASUREc ETERNITYc UNITYc DIMINISHMENTc CLOSED MOUTH",
      "c GUARDEDNESSc GATHERING INc MASSINGc ACCUMULATIONc EMBELLISHMENTc DOUBTc WATCHc SINKING",
      "c INNERc DEPARTUREc DARKENINGc DIMMINGc EXHAUSTIONc SEVERANCEc STOPPAGEc HARDNESS",
      "c COMPLETIONc CLOSUREc FAILUREc AGGRAVATIONc COMPLIANCEc ON THE VERGEc DIFFICULTIES",
      "c LABOURINGc FOSTERING"]),
   (0x1D360, ["aCOUNTING ROD UNIT DIGIT ONEe TWOe THREEe FOURe FIVEe SIXe SEVENe EIGHTe NINE",
      "c TENS DIGIT ONEe TWOe THREEe FOURe FIVEe SIXe SEVENe EIGHTe NINE",
      "aIDEOGRAPHIC TALLY MARK ONEd TWOd THREEd FOURd FIVEaTALLY MARK ONEc FIVE"]),
   (0x1D400, ["aMATHEMATICAL BOLD CAPITAL Ad Bd Cd Dd Ed Fd Gd Hd Id Jd Kd Ld Md Nd Od Pd Qd R",
      "d Sd Td Ud Vd Wd Xd Yd Zc SMALL Ad Bd Cd Dd Ed Fd Gd Hd Id Jd Kd Ld Md Nd Od Pd Qd Rd S",
      "d Td Ud Vd Wd Xd Yd Zb ITALIC CAPITAL Ad Bd Cd Dd Ed Fd Gd Hd Id Jd Kd Ld Md Nd Od Pd Q",
      "d Rd Sd Td Ud Vd Wd Xd Yd Zc SMALL Ad Bd Cd Dd Ed Fd G"]),
   (0x1D456, ["aMATHEMATICAL ITALIC SMALL Id Jd Kd Ld Md Nd Od Pd Qd Rd Sd Td Ud Vd Wd Xd Yd Z",
      "b BOLD ITALIC CAPITAL Ae Be Ce De Ee Fe Ge He Ie Je Ke Le Me Ne Oe Pe Qe Re Se Te Ue V",
      "e We Xe Ye Zd SMALL Ae Be Ce De Ee Fe Ge He Ie Je Ke Le Me Ne Oe Pe Qe Re Se Te Ue Ve W",
      "e Xe Ye Zb SCRIPT CAPITAL A"]),
   (0x1D49E, ["aMATHEMATICAL SCRIPT CAPITAL Cd D"]),
   (0x1D4A2, ["aMATHEMATICAL SCRIPT CAPITAL G"]),
   (0x1D4A5, ["aMATHEMATICAL SCRIPT CAPITAL Jd K"]),
   (0x1D4A9, ["aMATHEMATICAL SCRIPT CAPITAL Nd Od Pd Q"]),
   (0x1D4AE, ["aMATHEMATICAL SCRIPT CAPITAL Sd Td Ud Vd Wd Xd Yd Zc SMALL Ad Bd Cd D"]),
   (0x1D4BB, ["aMATHEMATICAL SCRIPT SMALL F"]),
   (0x1D4BD, ["aMATHEMATICAL SCRIPT SMALL Hd Id Jd Kd Ld Md N"]),
   (0x1D4C5, ["aMATHEMATICAL SCRIPT SMALL Pd Qd Rd Sd Td Ud Vd Wd Xd Yd Z",
      "b BOLD SCRIPT CAPITAL Ae Be Ce De Ee Fe Ge He Ie Je Ke Le Me Ne Oe Pe Qe Re Se Te Ue V",
      "e We Xe Ye Zd SMALL Ae Be Ce De Ee Fe Ge He Ie Je Ke Le Me Ne Oe Pe Qe Re Se Te Ue Ve W",
      "e Xe Ye Zb FRAKTUR CAPITAL Ad B"]),
   (0x1D507, ["aMATHEMATICAL FRAKTUR CAPITAL Dd Ed Fd G"]),
   (0x1D50D, ["aMATHEMATICAL FRAKTUR CAPITAL Jd Kd Ld Md Nd Od Pd Q"]),
   (0x1D516, ["aMATHEMATICAL FRAKTUR CAPITAL Sd Td Ud Vd Wd Xd Y"]),
   (0x1D51E, ["aMATHEMATICAL FRAKTUR SMALL Ad Bd Cd Dd Ed Fd Gd Hd Id Jd Kd Ld Md Nd Od Pd Qd R",
      "d Sd Td Ud Vd Wd Xd Yd Zb DOUBLE-STRUCK CAPITAL Ae B"]),
   (0x1D53B, ["aMATHEMATICAL DOUBLE-STRUCK CAPITAL De Ee Fe G"]),
   (0x1D540, ["aMATHEMATICAL DOUBLE-STRUCK CAPITAL Ie Je Ke Le M"]),
   (0x1D546, ["aMATHEMATICAL DOUBLE-STRUCK CAPITAL O"]),
   (0x1D54A, ["aMATHEMATICAL DOUBLE-STRUCK CAPITAL Se Te Ue Ve We Xe Y"]),
   (0x1D552, ["aMATHEMATICAL DOUBLE-STRUCK SMALL Ae Be Ce De Ee Fe Ge He Ie Je Ke Le Me Ne Oe P",
      "e Qe Re Se Te Ue Ve We Xe Ye Zb BOLD FRAKTUR CAPITAL Ae Be Ce De Ee Fe Ge He Ie Je Ke L",
      "e Me Ne Oe Pe Qe Re Se Te Ue Ve We Xe Ye Zd SMALL Ae Be Ce De Ee Fe Ge He Ie Je Ke Le M",
      "e Ne Oe Pe Qe Re Se Te Ue Ve We Xe Ye Zb SANS-SERIF CAPITAL Ae Be Ce De Ee Fe Ge He Ie J",
      "e Ke Le Me Ne Oe Pe Qe Re Se Te Ue Ve We Xe Ye Zd SMALL Ae Be Ce De Ee Fe Ge He Ie Je K",
      "e Le Me Ne Oe Pe Qe Re Se Te Ue Ve We Xe Ye Zd BOLD CAPITAL Af Bf Cf Df Ef Ff Gf Hf If J",
      "f Kf Lf Mf Nf Of Pf Qf Rf Sf Tf Uf Vf Wf Xf Yf Ze SMALL Af Bf Cf Df Ef Ff Gf Hf If Jf K",
      "f Lf Mf Nf Of Pf Qf Rf Sf Tf Uf Vf Wf Xf Yf Zd ITALIC CAPITAL Af Bf Cf Df Ef Ff Gf Hf I",
      "f Jf Kf Lf Mf Nf Of Pf Qf Rf Sf Tf Uf Vf Wf Xf Yf Ze SMALL Af Bf Cf Df Ef Ff Gf Hf If J",
      "f Kf Lf Mf Nf Of Pf Qf Rf Sf Tf Uf Vf Wf Xf Yf Zd BOLD ITALIC CAPITAL Ag Bg Cg Dg Eg F",
      "g Gg Hg Ig Jg Kg Lg Mg Ng Og Pg Qg Rg Sg Tg Ug Vg Wg Xg Yg Zf SMALL Ag Bg Cg Dg Eg Fg G",
      "g Hg Ig Jg Kg Lg Mg Ng Og Pg Qg Rg Sg Tg Ug Vg Wg Xg Yg Zb MONOSPACE CAPITAL Ad Bd Cd D",
      "d Ed Fd Gd Hd Id Jd Kd Ld Md Nd Od Pd Qd Rd Sd Td Ud Vd Wd Xd Yd Zc SMALL Ad Bd Cd Dd E",
      "d Fd Gd Hd Id Jd Kd Ld Md Nd Od Pd Qd Rd Sd Td Ud Vd Wd Xd Yd Zb ITALIC SMALL DOTLESS I",
      "e J"]),
   (0x1D6A8, ["aMATHEMATICAL BOLD CAPITAL ALPHAd BETAd GAMMAd DELTAd EPSILONd ZETAd ETAd THETA",
      "d IOTAd KAPPAd LAMDAd MUd NUd XId OMICRONd PId RHOd THETA SYMBOLd SIGMAd TAUd UPSILON",
      "d PHId CHId PSId OMEGAc NABLAc SMALL ALPHAd BETAd GAMMAd DELTAd EPSILONd ZETAd ETA",
      "d THETAd IOTAd KAPPAd LAMDAd MUd NUd XId OMICRONd PId RHOd FINAL SIGMAd SIGMAd TAU",
      "d UPSILONd PHId CHId PSId OMEGAc PARTIAL DIFFERENTIALc EPSILON SYMBOLc THETA SYMBOL",
      "c KAPPA SYMBOLc PHI SYMBOLc RHO SYMBOLc PI SYMBOLb ITALIC CAPITAL ALPHAd BETAd GAMMA",
      "d DELTAd EPSILONd ZETAd ETAd THETAd IOTAd KAPPAd LAMDAd MUd NUd XId OMICRONd PId RHO",
      "d THETA SYMBOLd SIGMAd TAUd UPSILONd PHId CHId PSId OMEGAc NABLAc SMALL ALPHAd BETA",
      "d GAMMAd DELTAd EPSILONd ZETAd ETAd THETAd IOTAd KAPPAd LAMDAd MUd NUd XId OMICRONd PI",
      "d RHOd FINAL SIGMAd SIGMAd TAUd UPSILONd PHId CHId PSId OMEGAc PARTIAL DIFFERENTIAL",
      "c EPSILON SYMBOLc THETA SYMBOLc KAPPA SYMBOLc PHI SYMBOLc RHO SYMBOLc PI SYMBOL",
      "b BOLD ITALIC CAPITAL ALPHAe BETAe GAMMAe DELTAe EPSILONe ZETAe ETAe THETAe IOTAe KAPPA",
      "e LAMDAe MUe NUe XIe OMICRONe PIe RHOe THETA SYMBOLe SIGMAe TAUe UPSILONe PHIe CHIe PSI",
      "e OMEGAd NABLAd SMALL ALPHAe BETAe GAMMAe DELTAe EPSILONe ZETAe ETAe THETAe IOTAe KAPPA",
      "e LAMDAe MUe NUe XIe OMICRONe PIe RHOe FINAL SIGMAe SIGMAe TAUe UPSILONe PHIe CHIe PSI",
      "e OMEGAd PARTIAL DIFFERENTIALd EPSILON SYMBOLd THETA SYMBOLd KAPPA SYMBOLd PHI SYMBOL",
      "d RHO SYMBOLd PI SYMBOLb SANS-SERIF BOLD CAPITAL ALPHAf BETAf GAMMAf DELTAf EPSILON",
      "f ZETAf ETAf THETAf IOTAf KAPPAf LAMDAf MUf NUf XIf OMICRONf PIf RHOf THETA SYMBOL",
      "f SIGMAf TAUf UPSILONf PHIf CHIf PSIf OMEGAe NABLAe SMALL ALPHAf BETAf GAMMAf DELTA",
      "f EPSILONf ZETAf ETAf THETAf IOTAf KAPPAf LAMDAf MUf NUf XIf OMICRONf PIf RHO",
      "f FINAL SIGMAf SIGMAf TAUf UPSILONf PHIf CHIf PSIf OMEGAe PARTIAL DIFFERENTIAL",
      "e EPSILON SYMBOLe THETA SYMBOLe KAPPA SYMBOLe PHI SYMBOLe RHO SYMBOLe PI SYMBOL",
      "e ITALIC CAPITAL ALPHAg BETAg GAMMAg DELTAg EPSILONg ZETAg ETAg THETAg IOTAg KAPPA",
      "g LAMDAg MUg NUg XIg OMICRONg PIg RHOg THETA SYMBOLg SIGMAg TAUg UPSILONg PHIg CHIg PSI",
      "g OMEGAf NABLAf SMALL ALPHAg BETAg GAMMAg DELTAg EPSILONg ZETAg ETAg THETAg IOTAg KAPPA",
      "g LAMDAg MUg NUg XIg OMICRONg PIg RHOg FINAL SIGMAg SIGMAg TAUg UPSILONg PHIg CHIg PSI",
      "g OMEGAf PARTIAL DIFFERENTIALf EPSILON SYMBOLf THETA SYMBOLf KAPPA SYMBOLf PHI SYMBOL",
      "f RHO SYMBOLf PI SYMBOLb BOLD CAPITAL DIGAMMAc SMALL DIGAMMA"]),
   (0x1D7CE, ["aMATHEMATICAL BOLD DIGIT ZEROd ONEd TWOd THREEd FOURd FIVEd SIXd SEVENd EIGHT",
      "d NINEb DOUBLE-STRUCK DIGIT ZEROe ONEe TWOe THREEe FOURe FIVEe SIXe SEVENe EIGHTe NINE",
      "b SANS-SERIF DIGIT ZEROe ONEe TWOe THREEe FOURe FIVEe SIXe SEVENe EIGHTe NINE",
      "d BOLD DIGIT ZEROf ONEf TWOf THREEf FOURf FIVEf SIXf SEVENf EIGHTf NINE",
      "b MONOSPACE DIGIT ZEROd ONEd TWOd THREEd FOURd FIVEd SIXd SEVENd EIGHTd NINE",
      "aSIGNWRITING HAND-FIST INDEXc-CIRCLE INDEXc-CUP INDEXc-OVAL INDEXc-HINGE INDEX",
      "c-ANGLE INDEXc-FIST INDEX BENTc-CIRCLE INDEX BENTc-FIST THUMB UNDER INDEX BENT",
      "d INDEX RAISED KNUCKLEe CUPPEDe HINGEDf LOWc-CIRCLE INDEX HINGEc-FIST INDEX MIDDLE",
      "c-CIRCLE INDEX MIDDLEc-FIST INDEX MIDDLE BENTf RAISED KNUCKLESf HINGEDe UP MIDDLE HINGED",
      "e HINGED MIDDLE UPe MIDDLE CONJOINEDg INDEX BENTg MIDDLE BENTg CUPPEDg HINGEDf CROSSED",
      "c-CIRCLE INDEX MIDDLE CROSSEDc-FIST MIDDLE BENT OVER INDEXd INDEX BENT OVER MIDDLE",
      "e MIDDLE THUMBc-CIRCLE INDEX MIDDLE THUMBc-FIST INDEX MIDDLE STRAIGHT THUMB BENT",
      "f BENT THUMB STRAIGHTf THUMB BENTf HINGED SPREAD THUMB SIDEe UP MIDDLE HINGED THUMB SIDE",
      "i CONJOINEDe HINGED MIDDLE UP THUMB SIDEe MIDDLE UP SPREAD THUMB FORWARDf THUMB CUPPED",
      "g CIRCLEDg HOOKEDg HINGEDd THUMB BETWEEN INDEX MIDDLE STRAIGHT",
      "d INDEX MIDDLE CONJOINED THUMB SIDEi CONJOINEDi BENTd MIDDLE THUMB HOOKED INDEX UP",
      "d INDEX THUMB HOOKED MIDDLE UPe MIDDLE CONJOINED HINGED THUMB SIDEf CROSSED THUMB SIDE",
      "f CONJOINED THUMB FORWARDg CUPPED THUMB FORWARDd MIDDLE THUMB CUPPED INDEX UP",
      "d INDEX THUMB CUPPED MIDDLE UPd MIDDLE THUMB CIRCLED INDEX UPh HINGED",
      "d INDEX THUMB ANGLED OUT MIDDLE UPg IN MIDDLE UPf CIRCLED MIDDLE UP",
      "e MIDDLE THUMB CONJOINED HINGEDg ANGLED OUThd MIDDLE THUMB ANGLED OUT INDEX UPi CROSSED",
      "g INDEX UPd INDEX THUMB HOOKED MIDDLE HINGEDc-FLAT FOUR FINGERSf BENTf HINGEDf CONJOINED",
      "g SPLITc-CLAW FOUR FINGERS CONJOINEDc-FIST FOUR FINGERS CONJOINED BENT",
      "c-HINGE FOUR FINGERS CONJOINEDc-FLAT FIVE FINGERS SPREADd HEEL FIVE FINGERS SPREAD",
      "d FIVE FINGERS SPREAD FOUR BENTd HEEL FIVE FINGERS SPREAD FOUR BENT",
      "d FIVE FINGERS SPREAD BENTd HEEL FIVE FINGERS SPREAD BENT",
      "d FIVE FINGERS SPREAD THUMB FORWARDc-CUP FIVE FINGERS SPREADg OPEN",
      "c-HINGE FIVE FINGERS SPREAD OPENc-OVAL FIVE FINGERS SPREAD",
      "c-FLAT FIVE FINGERS SPREAD HINGEDh THUMB SIDEh NO THUMBdd BETWEEN PALM FACINGSd HEEL",
      "d THUMB SIDEd HEEL THUMB SIDEd THUMB BENTe FORWARDd SPLIT INDEX THUMB SIDEe CENTRE",
      "f THUMB SIDEh BENTe LITTLEc-CLAWd THUMB SIDEd NO THUMBd THUMB FORWARDc-HOOK CURLICUEd",
      "c-CUP OPENdd OPEN THUMB SIDEd THUMB SIDEd OPEN NO THUMBd NO THUMBd OPEN THUMB FORWARD",
      "d THUMB FORWARDc-CURLICUE OPENdc-CIRCLEc-OVALd THUMB SIDEd NO THUMBd THUMB FORWARD",
      "c-HINGE OPENe THUMB FORWARDdd SMALLd OPEN THUMB SIDEd THUMB SIDEd OPEN NO THUMB",
      "d NO THUMBd THUMB SIDE TOUCHING INDEXe BETWEEN MIDDLE RINGc-ANGLE",
      "c-FIST INDEX MIDDLE RINGc-CIRCLE INDEX MIDDLE RINGc-HINGE INDEX MIDDLE RING",
      "c-ANGLE INDEX MIDDLE RINGc-HINGE LITTLEc-FIST INDEX MIDDLE RING BENTg CONJOINED",
      "c-HINGE INDEX MIDDLE RING CONJOINEDc-FIST LITTLE DOWNf RIPPLE STRAIGHTg CURVED",
      "f OTHERS CIRCLEDe UPd THUMB UNDER LITTLE UPc-CIRCLE LITTLE UPc-OVAL LITTLE UP",
      "c-ANGLE LITTLE UPc-FIST LITTLE RAISED KNUCKLEe BENTe TOUCHES THUMBe THUMB",
      "c-HINGE LITTLE THUMBc-FIST LITTLE INDEX THUMBc-HINGE LITTLE INDEX THUMB",
      "c-ANGLE LITTLE INDEX THUMB INDEX THUMB OUTic-FIST LITTLE INDEXc-CIRCLE LITTLE INDEX",
      "c-HINGE LITTLE INDEXc-ANGLE LITTLE INDEXc-FIST INDEX MIDDLE LITTLE",
      "c-CIRCLE INDEX MIDDLE LITTLEc-HINGE INDEX MIDDLE LITTLEd RINGc-ANGLE INDEX MIDDLE LITTLE",
      "c-FIST INDEX MIDDLE CROSS LITTLEc-CIRCLE INDEX MIDDLE CROSS LITTLEc-FIST RING DOWN",
      "c-HINGE RING DOWN INDEX THUMB HOOK MIDDLEc-ANGLE RING DOWN MIDDLE THUMB INDEX CROSS",
      "c-FIST RING UPe RAISED KNUCKLEe LITTLEc-CIRCLE RING LITTLEc-OVAL RING LITTLE",
      "c-ANGLE RING LITTLEc-FIST RING MIDDLEf CONJOINEDf RAISED KNUCKLESe INDEXe THUMB",
      "c-HOOK RING THUMBc-FIST INDEX RING LITTLEc-CIRCLE INDEX RING LITTLE",
      "c-CURLICUE INDEX RING LITTLE ONc-HOOK INDEX RING LITTLE OUTg INg UNDER",
      "c-CUP INDEX RING LITTLEc-HINGE INDEX RING LITTLEc-ANGLE INDEX RING LITTLE OUTg",
      "c-FIST MIDDLE DOWNc-HINGE MIDDLEc-FIST MIDDLE UPc-CIRCLE MIDDLE UP",
      "c-FIST MIDDLE RAISED KNUCKLEe UP THUMB SIDEc-HOOK MIDDLE THUMBc-FIST MIDDLE THUMB LITTLE",
      "e LITTLEe RING LITTLEc-CIRCLE MIDDLE RING LITTLEc-CURLICUE MIDDLE RING LITTLE ON",
      "c-CUP MIDDLE RING LITTLEc-HINGE MIDDLE RING LITTLEc-ANGLE MIDDLE RING LITTLE OUTg INg",
      "c-CIRCLE MIDDLE RING LITTLE BENTc-CLAW MIDDLE RING LITTLE CONJOINEDh SIDE",
      "c-HOOK MIDDLE RING LITTLE CONJOINED OUTh INhc-HINGE INDEX HINGEDc-FIST INDEX THUMB SIDE",
      "c-HINGE INDEX THUMB SIDEc-FIST INDEX THUMB SIDE THUMB DIAGONALh CONJOINEDh BENT",
      "g INDEX BENTg BOTH BENTg INDEX HINGEf FORWARD INDEX STRAIGHTh BENTf HOOKf CURLICUE",
      "f CURVE THUMB INSIDEc-CLAW INDEX THUMB CURVE THUMB INSIDE",
      "c-FIST INDEX THUMB CURVE THUMB UNDERf CIRCLEc-CUP INDEX THUMBf OPEN",
      "c-HINGE INDEX THUMB OPENf LARGEff SMALLc-ANGLE INDEX THUMB OUTf INfc-FIST THUMBe HEEL",
      "e SIDE DIAGONALf CONJOINEDf BENTe FORWARDe BETWEEN INDEX MIDDLEf MIDDLE RING",
      "f RING LITTLEe UNDER TWO FINGERSe OVER TWO FINGERSe UNDER THREE FINGERSf FOUR FINGERS",
      "e OVER FOUR RAISED KNUCKLESdd HEELb TOUCH SINGLEc MULTIPLEc BETWEENb GRASP SINGLE",
      "c MULTIPLEc BETWEENb STRIKE SINGLEc MULTIPLEc BETWEENb BRUSH SINGLEc MULTIPLEc BETWEEN",
      "b RUB SINGLEc MULTIPLEc BETWEENb SURFACE SYMBOLSc BETWEENb SQUEEZE LARGE SINGLE",
      "c SMALL SINGLEc LARGE MULTIPLEc SMALL MULTIPLEc SEQUENTIALb FLICK LARGE SINGLE",
      "c SMALL SINGLEc LARGE MULTIPLEc SMALL MULTIPLEc SEQUENTIALb SQUEEZE FLICK ALTERNATING",
      "b MOVEMENT-HINGE UP DOWN LARGEf SMALLe SEQUENTIALd DOWN SEQUENTIAL",
      "d UP DOWN ALTERNATING LARGEg SMALLd SIDE TO SIDE SCISSORSc-WALLPLANE FINGER CONTACT",
      "c-FLOORPLANE FINGER CONTACTc-WALLPLANE SINGLE STRAIGHT SMALLf MEDIUMf LARGEf LARGEST",
      "e WRIST FLEXd DOUBLE STRAIGHTe WRIST FLEXe ALTERNATINGf WRIST FLEXd CROSS",
      "d TRIPLE STRAIGHT MOVEMENTe WRIST FLEXe ALTERNATINGf WRIST FLEXd BEND SMALLe MEDIUM",
      "e LARGEd CORNER SMALLe MEDIUMe LARGEe ROTATIONd CHECK SMALLe MEDIUMe LARGEd BOX SMALL",
      "e MEDIUMe LARGEd ZIGZAG SMALLe MEDIUMe LARGEd PEAKS SMALLe MEDIUMe LARGE",
      "b TRAVEL-WALLPLANE ROTATION-WALLPLANE SINGLEf DOUBLEf ALTERNATINGe-FLOORPLANE SINGLE",
      "f DOUBLEf ALTERNATINGd SHAKINGd ARM SPIRAL SINGLEf DOUBLEf TRIPLE",
      "b MOVEMENT-DIAGONAL AWAY SMALLe MEDIUMe LARGEe LARGESTd TOWARDS SMALLe MEDIUMe LARGE",
      "e LARGESTd BETWEEN AWAY SMALLf MEDIUMf LARGEf LARGESTe TOWARDS SMALLf MEDIUMf LARGE",
      "f LARGESTc-FLOORPLANE SINGLE STRAIGHT SMALLf MEDIUMf LARGEf LARGESTe WRIST FLEX",
      "d DOUBLE STRAIGHTe WRIST FLEXe ALTERNATINGf WRIST FLEXd CROSSd TRIPLE STRAIGHT MOVEMENT",
      "e WRIST FLEXe ALTERNATING MOVEMENTf WRIST FLEXd BENDd CORNER SMALLe MEDIUMe LARGEd CHECK",
      "d BOX SMALLe MEDIUMe LARGEd ZIGZAG SMALLe MEDIUMe LARGEd PEAKS SMALLe MEDIUMe LARGE",
      "b TRAVEL-FLOORPLANE ROTATION-FLOORPLANE SINGLEf DOUBLEf ALTERNATINGe-WALLPLANE SINGLE",
      "f DOUBLEf ALTERNATINGd SHAKINGb MOVEMENT-WALLPLANE CURVE QUARTER SMALLf MEDIUMf LARGE",
      "f LARGESTe HALF-CIRCLE SMALLg MEDIUMg LARGEg LARGESTe THREE-QUARTER CIRCLE SMALLh MEDIUM",
      "d HUMP SMALLe MEDIUMe LARGEd LOOP SMALLe MEDIUMe LARGEe SMALL DOUBLE",
      "d WAVE CURVE DOUBLE SMALLg MEDIUMg LARGEf TRIPLE SMALLg MEDIUMg LARGE",
      "d CURVE THEN STRAIGHTd CURVED CROSS SMALLf MEDIUMb ROTATION-WALLPLANE SINGLEd DOUBLE",
      "d ALTERNATEb MOVEMENT-WALLPLANE SHAKINGd CURVE HITTING FRONT WALL",
      "d HUMP HITTING FRONT WALLd LOOP HITTING FRONT WALLd WAVE HITTING FRONT WALL",
      "b ROTATION-WALLPLANE SINGLE HITTING FRONT WALLd DOUBLE HITTING FRONT WALL",
      "d ALTERNATING HITTING FRONT WALLb MOVEMENT-WALLPLANE CURVE HITTING CHEST",
      "d HUMP HITTING CHESTd LOOP HITTING CHESTd WAVE HITTING CHEST",
      "b ROTATION-WALLPLANE SINGLE HITTING CHESTd DOUBLE HITTING CHEST",
      "d ALTERNATING HITTING CHESTb MOVEMENT-WALLPLANE WAVE DIAGONAL PATH SMALLg MEDIUMg LARGE",
      "c-FLOORPLANE CURVE HITTING CEILING SMALLg LARGEd HUMP HITTING CEILING SMALL DOUBLE",
      "g LARGE DOUBLEg SMALL TRIPLEg LARGE TRIPLEd LOOP HITTING CEILING SMALL SINGLE",
      "g LARGE SINGLEg SMALL DOUBLEg LARGE DOUBLEd WAVE HITTING CEILING SMALLg LARGE",
      "b ROTATION-FLOORPLANE SINGLE HITTING CEILINGd DOUBLE HITTING CEILING",
      "d ALTERNATING HITTING CEILINGb MOVEMENT-FLOORPLANE CURVE HITTING FLOOR SMALLg LARGE",
      "d HUMP HITTING FLOOR SMALL DOUBLEg LARGE DOUBLEg TRIPLE SMALL TRIPLEh LARGE TRIPLE",
      "d LOOP HITTING FLOOR SMALL SINGLEg LARGE SINGLEg SMALL DOUBLEg LARGE DOUBLE",
      "d WAVE HITTING FLOOR SMALLg LARGEb ROTATION-FLOORPLANE SINGLE HITTING FLOOR",
      "d DOUBLE HITTING FLOORd ALTERNATING HITTING FLOORb MOVEMENT-FLOORPLANE CURVE SMALL",
      "e MEDIUMe LARGEe LARGESTe COMBINEDd HUMP SMALLd LOOP SMALLd WAVE SNAKEe SMALLe LARGE",
      "b ROTATION-FLOORPLANE SINGLEd DOUBLEd ALTERNATINGb MOVEMENT-FLOORPLANE SHAKING PARALLEL",
      "c-WALLPLANE ARM CIRCLE SMALL SINGLEf MEDIUM SINGLEf SMALL DOUBLEf MEDIUM DOUBLE",
      "c-FLOORPLANE ARM CIRCLE HITTING WALL SMALL SINGLEh MEDIUM SINGLEh LARGE SINGLE",
      "h SMALL DOUBLEh MEDIUM DOUBLEh LARGE DOUBLEc-WALLPLANE WRIST CIRCLE FRONT SINGLEg DOUBLE",
      "c-FLOORPLANE WRIST CIRCLE HITTING WALL SINGLEh DOUBLEc-WALLPLANE FINGER CIRCLES SINGLE",
      "f DOUBLEc-FLOORPLANE FINGER CIRCLES HITTING WALL SINGLEh DOUBLEb DYNAMIC ARROWHEAD SMALL",
      "d LARGEc FASTc SLOWc TENSEc RELAXEDc SIMULTANEOUSd ALTERNATINGc EVERY OTHER TIME",
      "c GRADUALb HEADc RIMc MOVEMENT-WALLPLANE STRAIGHTe TILTd-FLOORPLANE STRAIGHT",
      "d-WALLPLANE CURVEd-FLOORPLANE CURVEd CIRCLE",
      "b FACE DIRECTION POSITION NOSE FORWARD TILTINGf UP OR DOWNi TILTING",
      "b EYEBROWS STRAIGHT UPd NEUTRALd DOWNb DREAMY EYEBROWS NEUTRAL DOWNd DOWN NEUTRAL",
      "d UP NEUTRALd NEUTRAL UPb FOREHEAD NEUTRALc CONTACTc WRINKLEDb EYES OPENc SQUEEZED",
      "c CLOSEDb EYE BLINK SINGLEd MULTIPLEb EYES HALF OPENc WIDE OPENc HALF CLOSED",
      "c WIDENING MOVEMENTb EYE WINKb EYELASHES UPc DOWNc FLUTTERING",
      "b EYEGAZE-WALLPLANE STRAIGHTe DOUBLEe ALTERNATINGc-FLOORPLANE STRAIGHTe DOUBLE",
      "e ALTERNATINGc-WALLPLANE CURVEDc-FLOORPLANE CURVEDc-WALLPLANE CIRCLINGb CHEEKS PUFFED",
      "c NEUTRALc SUCKEDb TENSE CHEEKS HIGHd MIDDLEd LOWb EARSb NOSE NEUTRALc CONTACTc WRINKLES",
      "c WIGGLESb AIR BLOWING OUTc SUCKING INc BLOW SMALL ROTATIONSc SUCK SMALL ROTATIONS",
      "b BREATH INHALEc EXHALEb MOUTH CLOSED NEUTRALd FORWARDd CONTACTc SMILEd WRINKLEDd OPEN",
      "c FROWNd WRINKLEDd OPENc OPEN CIRCLEd FORWARDd WRINKLEDd OVALe WRINKLEDe YAWNd RECTANGLE",
      "e WRINKLEDe YAWNc KISSd FORWARDd WRINKLEDc TENSEd FORWARDd SUCKEDb LIPS PRESSED TOGETHER",
      "b LIP LOWER OVER UPPERc UPPER OVER LOWERb MOUTH CORNERSc WRINKLES SINGLEd DOUBLE",
      "b TONGUE STICKING OUT FARc LICKING LIPSc TIP BETWEEN LIPSd TOUCHING INSIDE MOUTH",
      "c INSIDE MOUTH RELAXEDc MOVES AGAINST CHEEKc CENTRE STICKING OUTd INSIDE MOUTHb TEETH",
      "c MOVEMENTc ON TONGUEe MOVEMENTd LIPSe MOVEMENTc BITE LIPSb MOVEMENT-WALLPLANE JAW",
      "c-FLOORPLANE JAWb NECKb HAIRb EXCITEMENTb SHOULDER HIP SPINEd POSITIONS",
      "b WALLPLANE SHOULDER HIP MOVEb FLOORPLANE SHOULDER HIP MOVEb SHOULDER TILTING FROM WAIST",
      "b TORSO-WALLPLANE STRAIGHT STRETCHd CURVED BENDc-FLOORPLANE TWISTING",
      "b UPPER BODY TILTING FROM HIP JOINTSb LIMB COMBINATIONc LENGTH-1d-2d-3d-4d-5d-6d-7",
      "b FINGERb LOCATION-WALLPLANE SPACEc-FLOORPLANE SPACEc HEIGHTc WIDTHc DEPTHc HEAD NECK",
      "c TORSOc LIMBS DIGITSb COMMAb FULL STOPb SEMICOLONb COLONb PARENTHESIS"]),
   (0x1DA9B, ["aSIGNWRITING FILL MODIFIER-2d-3d-4d-5d-6"]),
   (0x1DAA1, ["aSIGNWRITING ROTATION MODIFIER-2d-3d-4d-5d-6d-7d-8d-9d-10d-11d-12d-13d-14d-15",
      "d-16"]),
   (0x1DF00, ["aLATIN SMALL LETTER FENG DIGRAPH WITH TRILLd REVERSED SCRIPT G",
      "b LETTER SMALL CAPITAL TURNED Gb SMALL LETTER REVERSED K",
      "b LETTER SMALL CAPITAL L WITH BELTb SMALL LETTER LEZH WITH RETROFLEX HOOK",
      "d TURNED Y WITH BELTd REVERSED ENGd TURNED R WITH LONG LEG AND RETROFLEX HOOK",
      "d T WITH HOOK AND RETROFLEX HOOKb LETTER RETROFLEX CLICK WITH RETROFLEX HOOK",
      "b SMALL LETTER ESH WITH DOUBLE BARh AND CURLd TURNED T WITH CURL",
      "b LETTER INVERTED GLOTTAL STOP WITH CURLc STRETCHED C WITH CURLc SMALL CAPITAL TURNED K",
      "b SMALL LETTER L WITH FISHHOOKd DEZH DIGRAPH WITH PALATAL HOOK",
      "d L WITH BELT AND PALATAL HOOKd ENG WITH PALATAL HOOKd TURNED R WITH PALATAL HOOK",
      "d R WITH FISHHOOK AND PALATAL HOOKd TESH DIGRAPH WITH PALATAL HOOK",
      "d EZH WITH PALATAL HOOKd DEZH DIGRAPH WITH RETROFLEX HOOK",
      "d I WITH STROKE AND RETROFLEX HOOKd O WITH RETROFLEX HOOK",
      "d TESH DIGRAPH WITH RETROFLEX HOOKd C WITH RETROFLEX HOOKd S WITH CURL"]),
   (0x1E000, ["aCOMBINING GLAGOLITIC LETTER AZUd BUKYd VEDEd GLAGOLId DOBROd YESTUd ZHIVETE"]),
   (0x1E008, ["aCOMBINING GLAGOLITIC LETTER ZEMLJAd IZHEd INITIAL IZHEd Id DJERVId KAKO",
      "d LJUDIJEd MYSLITEd NASHId ONUd POKOJId RITSId SLOVOd TVRIDOd UKUd FRITUd HERU"]),
   (0x1E01B, ["aCOMBINING GLAGOLITIC LETTER SHTAd TSId CHRIVId SHAd YERUd YERId YATI"]),
   (0x1E023, ["aCOMBINING GLAGOLITIC LETTER YUd SMALL YUS"]),
   (0x1E026, ["aCOMBINING GLAGOLITIC LETTER YOd IOTATED SMALL YUSd BIG YUSd IOTATED BIG YUS",
      "d FITA"]),
   (0x1E100, ["aNYIAKENG PUACHUE HMONG LETTER MAe TSAe NTAe TAe HAe NAe XAe NKAe CAe LAe SAe ZA",
      "e NCAe NTSAe KAe DAe NYAe NRAe VAe NTXAe TXAe FAe RAe QAe YAe NQAe PAe XYAe NPAe DLA",
      "e NPLAe HAHe MLAe PLAe GAe RRAe Ae AAe Ie Ue Oe OOe Ee EEe W"]),
   (0x1E130, ["aNYIAKENG PUACHUE HMONG TONE-Be-Me-Je-Ve-Se-Ge-Dd SIGN FOR PERSONf THING",
      "f LOCATIONf ANIMALf INVERTEBRATEe XW XWd SYLLABLE LENGTHENER"]),
   (0x1E140, ["aNYIAKENG PUACHUE HMONG DIGIT ZEROe ONEe TWOe THREEe FOURe FIVEe SIXe SEVEN",
      "e EIGHTe NINE"]),
   (0x1E14E, ["aNYIAKENG PUACHUE HMONG LOGOGRAM NYAJd CIRCLED CA"]),
   (0x1E290, ["aTOTO LETTER PAc BAc TAc DAc KAc GAc MAc NAc NGAc SAc CHAc YAc WAc JAc HAc RA",
      "c LAc Ic BREATHY Ic IUc BREATHY IUc Uc Ec BREATHY Ec EOc BREATHY EOc Oc AEc BREATHY AE",
      "c Ab SIGN RISING TONE"]),
   (0x1E2C0, ["aWANCHO LETTER AAc Ac BAc CAc DAc GAc YAc PHAc LAc NAc PAc TAc THAc FAc SAc SHA",
      "c JAc ZAc WAc VAc KAc Oc AUc RAc MAc KHAc HAc Ec Ic NGAc Uc LLHAc TSAc TRAc ONGc AANG",
      "c ANGc INGc ONc ENc AANc NYAc UENc YIHb TONE TUPc TUPNIc KOIc KOINIb DIGIT ZEROc ONE",
      "c TWOc THREEc FOURc FIVEc SIXc SEVENc EIGHTc NINE"]),
   (0x1E2FF, ["aWANCHO NGUN SIGN"]),
   (0x1E7E0, ["aETHIOPIC SYLLABLE HHYAc HHYUc HHYIc HHYAAc HHYEEc HHYEc HHYO"]),
   (0x1E7E8, ["aETHIOPIC SYLLABLE GURAGE HHWAc HHWIc HHWEEc HHWE"]),
   (0x1E7ED, ["aETHIOPIC SYLLABLE GURAGE MWId MWEE"]),
   (0x1E7F0, ["aETHIOPIC SYLLABLE GURAGE QWId QWEEd QWEd BWId BWEEd KWId KWEEd KWEd GWId GWEE",
      "d GWEd FWId FWEEd PWId PWEE"]),
   (0x1E800, ["aMENDE KIKAKUI SYLLABLE M001 KId M002 KAd M003 KUd M065 KEEd M095 KEd M076 KOO",
      "d M048 KOd M179 KUAd M004 WId M005 WAd M006 WUd M126 WEEd M118 WEd M114 WOOd M045 WO",
      "d M194 WUId M143 WEId M061 WVId M049 WVAd M139 WVEd M007 MINd M008 MANd M009 MUN",
      "d M059 MENd M094 MONd M154 MUANd M189 MUENd M010 BId M011 BAd M012 BUd M150 BEEd M097 BE",
      "d M103 BOOd M138 BOd M013 Id M014 Ad M015 Ud M163 EEd M100 Ed M165 OOd M147 Od M137 EI",
      "d M131 INd M135 INd M195 ANd M178 ENd M019 SId M020 SAd M021 SUd M162 SEEd M116 SE",
      "d M136 SOOd M079 SOd M196 SIAd M025 LId M026 LAd M027 LUd M084 LEEd M073 LEd M054 LOO",
      "d M153 LOd M110 LONG LEd M016 DId M017 DAd M018 DUd M089 DEEd M180 DOOd M181 DOd M022 TI",
      "d M023 TAd M024 TUd M091 TEEd M055 TEd M104 TOOd M069 TOd M028 JId M029 JAd M030 JU",
      "d M157 JEEd M113 JEd M160 JOOd M063 JOd M175 LONG JOd M031 YId M032 YAd M033 YU",
      "d M109 YEEd M080 YEd M141 YOOd M121 YOd M034 FId M035 FAd M036 FUd M078 FEEd M075 FE",
      "d M133 FOOd M088 FOd M197 FUAd M101 FANd M037 NINd M038 NANd M039 NUNd M117 NEN",
      "d M169 NONd M176 HId M041 HAd M186 HUd M040 HEEd M096 HEd M042 HOOd M140 HOd M083 HEEI",
      "d M128 HOOUd M053 HINd M130 HANd M087 HUNd M052 HENd M193 HONd M046 HUANd M090 NGGI",
      "d M043 NGGAd M082 NGGUd M115 NGGEEd M146 NGGEd M156 NGGOOd M120 NGGOd M159 NGGAA",
      "d M127 NGGUAd M086 LONG NGGEd M106 LONG NGGOOd M183 LONG NGGOd M155 GId M111 GAd M168 GU",
      "d M190 GEEd M166 GUEId M167 GUANd M184 NGENd M057 NGONd M177 NGUANd M068 PId M099 PA",
      "d M050 PUd M081 PEEd M051 PEd M102 POOd M066 POd M145 MBId M062 MBAd M122 MBUd M047 MBEE",
      "d M188 MBEEd M072 MBEd M172 MBOOd M174 MBOd M187 MBUUd M161 LONG MBEd M105 LONG MBOO",
      "d M142 LONG MBOd M132 KPId M092 KPAd M074 KPUd M044 KPEEd M108 KPEd M112 KPOOd M158 KPO",
      "d M124 GBId M056 GBAd M148 GBUd M093 GBEEd M107 GBEd M071 GBOOd M070 GBOd M171 RA",
      "d M123 NDId M129 NDAd M125 NDUd M191 NDEEd M119 NDEd M067 NDOOd M064 NDOd M152 NJA",
      "d M192 NJUd M149 NJEEd M134 NJOOd M182 VId M185 VAd M151 VUd M173 VEEd M085 VEd M144 VOO",
      "d M077 VOd M164 NYINd M058 NYANd M170 NYUNd M098 NYENd M060 NYON"]),
   (0x1E8C7, ["aMENDE KIKAKUI DIGIT ONEd TWOd THREEd FOURd FIVEd SIXd SEVENd EIGHTd NINE",
      "c COMBINING NUMBER TEENSe TENSe HUNDREDSe THOUSANDSe TEN THOUSANDSe HUNDRED THOUSANDS",
      "e MILLIONS"]),
   (0x1E900, ["aADLAM CAPITAL LETTER ALIFd DAALId LAAMd MIIMd BAd SINNYIIYHEd PEd BHEd RAd E",
      "d FAd Id Od DHAd YHEd WAWd NUNd KAFd YAd Ud JIIMd CHId HAd QAAFd GAd NYAd TUd NHAd VA",
      "d KHAd GBEd ZALd KPOd SHAb SMALL LETTER ALIFd DAALId LAAMd MIIMd BAd SINNYIIYHEd PEd BHE",
      "d RAd Ed FAd Id Od DHAd YHEd WAWd NUNd KAFd YAd Ud JIIMd CHId HAd QAAFd GAd NYAd TUd NHA",
      "d VAd KHAd GBEd ZALd KPOd SHAb ALIF LENGTHENERb VOWEL LENGTHENERb GEMINATION MARKb HAMZA",
      "b CONSONANT MODIFIERb GEMINATE CONSONANT MODIFIERb NUKTAb NASALIZATION MARK"]),
   (0x1E950, ["aADLAM DIGIT ZEROc ONEc TWOc THREEc FOURc FIVEc SIXc SEVENc EIGHTc NINE"]),
   (0x1E95E, ["aADLAM INITIAL EXCLAMATION MARKc QUESTION MARK"]),
   (0x1EC71, ["aINDIC SIYAQ NUMBER ONEd TWOd THREEd FOURd FIVEd SIXd SEVENd EIGHTd NINEd TEN",
      "d TWENTYd THIRTYd FORTYd FIFTYd SIXTYd SEVENTYd EIGHTYd NINETYd ONE HUNDREDd TWO HUNDRED",
      "d THREE HUNDREDd FOUR HUNDREDd FIVE HUNDREDd SIX HUNDREDd SEVEN HUNDREDd EIGHT HUNDRED",
      "d NINE HUNDREDd ONE THOUSANDd TWO THOUSANDd THREE THOUSANDd FOUR THOUSANDd FIVE THOUSAND",
      "d SIX THOUSANDd SEVEN THOUSANDd EIGHT THOUSANDd NINE THOUSANDd TEN THOUSAND",
      "d TWENTY THOUSANDd THIRTY THOUSANDd FORTY THOUSANDd FIFTY THOUSANDd SIXTY THOUSAND",
      "d SEVENTY THOUSANDd EIGHTY THOUSANDd NINETY THOUSANDd LAKHd LAKHANc LAKH MARK",
      "c NUMBER KARORd KARORANd PREFIXED ONEe TWOe THREEe FOURe FIVEe SIXe SEVENe EIGHTe NINE",
      "c PLACEHOLDERc FRACTION ONE QUARTERe HALFd THREE QUARTERSc RUPEE MARK",
      "c NUMBER ALTERNATE ONEe TWOe TEN THOUSANDc ALTERNATE LAKH MARK"]),
   (0x1ED01, ["aOTTOMAN SIYAQ NUMBER ONEd TWOd THREEd FOURd FIVEd SIXd SEVENd EIGHTd NINEd TEN",
      "d TWENTYd THIRTYd FORTYd FIFTYd SIXTYd SEVENTYd EIGHTYd NINETYd ONE HUNDREDd TWO HUNDRED",
      "d THREE HUNDREDd FOUR HUNDREDd FIVE HUNDREDd SIX HUNDREDd SEVEN HUNDREDd EIGHT HUNDRED",
      "d NINE HUNDREDd ONE THOUSANDd TWO THOUSANDd THREE THOUSANDd FOUR THOUSANDd FIVE THOUSAND",
      "d SIX THOUSANDd SEVEN THOUSANDd EIGHT THOUSANDd NINE THOUSANDd TEN THOUSAND",
      "d TWENTY THOUSANDd THIRTY THOUSANDd FORTY THOUSANDd FIFTY THOUSANDd SIXTY THOUSAND",
      "d SEVENTY THOUSANDd EIGHTY THOUSANDd NINETY THOUSANDc MARRATANc ALTERNATE NUMBER TWO",
      "e THREEe FOURe FIVEe SIXe SEVENe EIGHTe NINEe TENe FOUR HUNDREDe SIX HUNDRED",
      "e TWO THOUSANDe TEN THOUSANDc FRACTION ONE HALFe SIXTH"]),
   (0x1EE00, ["aARABIC MATHEMATICAL ALEFc BEHc JEEMc DAL"]),
   (0x1EE05, ["aARABIC MATHEMATICAL WAWc ZAINc HAHc TAHc YEHc KAFc LAMc MEEMc NOONc SEENc AIN",
      "c FEHc SADc QAFc REHc SHEENc TEHc THEHc KHAHc THALc DADc ZAHc GHAINc DOTLESS BEHd NOON",
      "d FEHd QAF"]),
   (0x1EE21, ["aARABIC MATHEMATICAL INITIAL BEHd JEEM"]),
   (0x1EE24, ["aARABIC MATHEMATICAL INITIAL HEH"]),
   (0x1EE27, ["aARABIC MATHEMATICAL INITIAL HAH"]),
   (0x1EE29, ["aARABIC MATHEMATICAL INITIAL YEHd KAFd LAMd MEEMd NOONd SEENd AINd FEHd SADd QAF"]),
   (0x1EE34, ["aARABIC MATHEMATICAL INITIAL SHEENd TEHd THEHd KHAH"]),
   (0x1EE39, ["aARABIC MATHEMATICAL INITIAL DAD"]),
   (0x1EE3B, ["aARABIC MATHEMATICAL INITIAL GHAIN"]),
   (0x1EE42, ["aARABIC MATHEMATICAL TAILED JEEM"]),
   (0x1EE47, ["aARABIC MATHEMATICAL TAILED HAH"]),
   (0x1EE49, ["aARABIC MATHEMATICAL TAILED YEH"]),
   (0x1EE4B, ["aARABIC MATHEMATICAL TAILED LAM"]),
   (0x1EE4D, ["aARABIC MATHEMATICAL TAILED NOONd SEENd AIN"]),
   (0x1EE51, ["aARABIC MATHEMATICAL TAILED SADd QAF"]),
   (0x1EE54, ["aARABIC MATHEMATICAL TAILED SHEEN"]),
   (0x1EE57, ["aARABIC MATHEMATICAL TAILED KHAH"]),
   (0x1EE59, ["aARABIC MATHEMATICAL TAILED DAD"]),
   (0x1EE5B, ["aARABIC MATHEMATICAL TAILED GHAIN"]),
   (0x1EE5D, ["aARABIC MATHEMATICAL TAILED DOTLESS NOON"]),
   (0x1EE5F, ["aARABIC MATHEMATICAL TAILED DOTLESS QAF"]),
   (0x1EE61, ["aARABIC MATHEMATICAL STRETCHED BEHd JEEM"]),
   (0x1EE64, ["aARABIC MATHEMATICAL STRETCHED HEH"]),
   (0x1EE67, ["aARABIC MATHEMATICAL STRETCHED HAHd TAHd YEHd KAF"]),
   (0x1EE6C, ["aARABIC MATHEMATICAL STRETCHED MEEMd NOONd SEENd AINd FEHd SADd QAF"]),
   (0x1EE74, ["aARABIC MATHEMATICAL STRETCHED SHEENd TEHd THEHd KHAH"]),
   (0x1EE79, ["aARABIC MATHEMATICAL STRETCHED DADd ZAHd GHAINd DOTLESS BEH"]),
   (0x1EE7E, ["aARABIC MATHEMATICAL STRETCHED DOTLESS FEH"]),
   (0x1EE80, ["aARABIC MATHEMATICAL LOOPED ALEFd BEHd JEEMd DALd HEHd WAWd ZAINd HAHd TAHd YEH"]),
   (0x1EE8B, ["aARABIC MATHEMATICAL LOOPED LAMd MEEMd NOONd SEENd AINd FEHd SADd QAFd REH",
      "d SHEENd TEHd THEHd KHAHd THALd DADd ZAHd GHAIN"]),
   (0x1EEA1, ["aARABIC MATHEMATICAL DOUBLE-STRUCK BEHe JEEMe DAL"]),
   (0x1EEA5, ["aARABIC MATHEMATICAL DOUBLE-STRUCK WAWe ZAINe HAHe TAHe YEH"]),
   (0x1EEAB, ["aARABIC MATHEMATICAL DOUBLE-STRUCK LAMe MEEMe NOONe SEENe AINe FEHe SADe QAF",
      "e REHe SHEENe TEHe THEHe KHAHe THALe DADe ZAHe GHAIN"]),
   (0x1EEF0, ["aARABIC MATHEMATICAL OPERATOR MEEM WITH HAH WITH TATWEELd HAH WITH DAL"]),
   (0x1F000, ["aMAHJONG TILE EAST WINDc SOUTH WINDc WEST WINDc NORTH WINDc RED DRAGON",
      "c GREEN DRAGONc WHITE DRAGONc ONE OF CHARACTERSc TWO OF CHARACTERSc THREE OF CHARACTERS",
      "c FOUR OF CHARACTERSc FIVE OF CHARACTERSc SIX OF CHARACTERSc SEVEN OF CHARACTERS",
      "c EIGHT OF CHARACTERSc NINE OF CHARACTERSc ONE OF BAMBOOSc TWO OF BAMBOOS",
      "c THREE OF BAMBOOSc FOUR OF BAMBOOSc FIVE OF BAMBOOSc SIX OF BAMBOOSc SEVEN OF BAMBOOS",
      "c EIGHT OF BAMBOOSc NINE OF BAMBOOSc ONE OF CIRCLESc TWO OF CIRCLESc THREE OF CIRCLES",
      "c FOUR OF CIRCLESc FIVE OF CIRCLESc SIX OF CIRCLESc SEVEN OF CIRCLESc EIGHT OF CIRCLES",
      "c NINE OF CIRCLESc PLUMc ORCHIDc BAMBOOc CHRYSANTHEMUMc SPRINGc SUMMERc AUTUMNc WINTER",
      "c JOKERc BACK"]),
   (0x1F030, ["aDOMINO TILE HORIZONTAL BACKd-00-00e-01e-02e-03e-04e-05e-06d-01-00e-01e-02e-03",
      "e-04e-05e-06d-02-00e-01e-02e-03e-04e-05e-06d-03-00e-01e-02e-03e-04e-05e-06d-04-00e-01",
      "e-02e-03e-04e-05e-06d-05-00e-01e-02e-03e-04e-05e-06d-06-00e-01e-02e-03e-04e-05e-06",
      "c VERTICAL BACKd-00-00e-01e-02e-03e-04e-05e-06d-01-00e-01e-02e-03e-04e-05e-06d-02-00e-01",
      "e-02e-03e-04e-05e-06d-03-00e-01e-02e-03e-04e-05e-06d-04-00e-01e-02e-03e-04e-05e-06",
      "d-05-00e-01e-02e-03e-04e-05e-06d-06-00e-01e-02e-03e-04e-05e-06"]),
   (0x1F0A0, ["aPLAYING CARD BACKc ACE OF SPADESc TWO OF SPADESc THREE OF SPADES",
      "c FOUR OF SPADESc FIVE OF SPADESc SIX OF SPADESc SEVEN OF SPADESc EIGHT OF SPADES",
      "c NINE OF SPADESc TEN OF SPADESc JACK OF SPADESc KNIGHT OF SPADESc QUEEN OF SPADES",
      "c KING OF SPADES"]),
   (0x1F0B1, ["aPLAYING CARD ACE OF HEARTSc TWO OF HEARTSc THREE OF HEARTSc FOUR OF HEARTS",
      "c FIVE OF HEARTSc SIX OF HEARTSc SEVEN OF HEARTSc EIGHT OF HEARTSc NINE OF HEARTS",
      "c TEN OF HEARTSc JACK OF HEARTSc KNIGHT OF HEARTSc QUEEN OF HEARTSc KING OF HEARTS",
      "c RED JOKER"]),
   (0x1F0C1, ["aPLAYING CARD ACE OF DIAMONDSc TWO OF DIAMONDSc THREE OF DIAMONDS",
      "c FOUR OF DIAMONDSc FIVE OF DIAMONDSc SIX OF DIAMONDSc SEVEN OF DIAMONDS",
      "c EIGHT OF DIAMONDSc NINE OF DIAMONDSc TEN OF DIAMONDSc JACK OF DIAMONDS",
      "c KNIGHT OF DIAMONDSc QUEEN OF DIAMONDSc KING OF DIAMONDSc BLACK JOKER"]),
   (0x1F0D1, ["aPLAYING CARD ACE OF CLUBSc TWO OF CLUBSc THREE OF CLUBSc FOUR OF CLUBS",
      "c FIVE OF CLUBSc SIX OF CLUBSc SEVEN OF CLUBSc EIGHT OF CLUBSc NINE OF CLUBS",
      "c TEN OF CLUBSc JACK OF CLUBSc KNIGHT OF CLUBSc QUEEN OF CLUBSc KING OF CLUBS",
      "c WHITE JOKERc FOOLc TRUMP-1d-2d-3d-4d-5d-6d-7d-8d-9d-10d-11d-12d-13d-14d-15d-16d-17d-18",
      "d-19d-20d-21"]),
   (0x1F100, ["aDIGIT ZERO FULL STOPc COMMAb ONE COMMAb TWO COMMAb THREE COMMAb FOUR COMMA",
      "b FIVE COMMAb SIX COMMAb SEVEN COMMAb EIGHT COMMAb NINE COMMA",
      "aDINGBAT CIRCLED SANS-SERIF DIGIT ZEROb NEGATIVE CIRCLED SANS-SERIF DIGIT ZERO",
      "aCIRCLED ZERO WITH SLASHb ANTICLOCKWISE ARROWb DOLLAR SIGN WITH OVERLAID BACKSLASH",
      "aPARENTHESIZED LATIN CAPITAL LETTER Ae Be Ce De Ee Fe Ge He Ie Je Ke Le Me Ne Oe Pe Qe R",
      "e Se Te Ue Ve We Xe Ye ZaTORTOISE SHELL BRACKETED LATIN CAPITAL LETTER S",
      "aCIRCLED ITALIC LATIN CAPITAL LETTER Cf Rb CDb WZaCOPYLEFT SYMBOL",
      "aSQUARED LATIN CAPITAL LETTER Ae Be Ce De Ee Fe Ge He Ie Je Ke Le Me Ne Oe Pe Qe Re Se T",
      "e Ue Ve We Xe Ye Zb HVb MVb SDb SSb PPVb WCaNEGATIVE CIRCLED LATIN CAPITAL LETTER Af B",
      "f Cf Df Ef Ff Gf Hf If Jf Kf Lf Mf Nf Of Pf Qf Rf Sf Tf Uf Vf Wf Xf Yf ZaRAISED MC SIGN",
      "b MD SIGNb MR SIGNaCIRCLED CCb C WITH OVERLAID BACKSLASHb HUMAN FIGURE",
      "aNEGATIVE SQUARED LATIN CAPITAL LETTER Af Bf Cf Df Ef Ff Gf Hf If Jf Kf Lf Mf Nf Of Pf Q",
      "f Rf Sf Tf Uf Vf Wf Xf Yf ZaCROSSED NEGATIVE SQUARED LATIN CAPITAL LETTER P",
      "aNEGATIVE SQUARED ICc PAc SAc ABc WCaSQUARE DJaSQUARED CLb COOLb FREEb IDb NEWb NGb OK",
      "b SOSb UP WITH EXCLAMATION MARKb VSb THREE Db SECOND SCREENb TWO Kb FOUR Kb EIGHT K",
      "b FIVE POINT ONEb SEVEN POINT ONEb TWENTY-TWO POINT TWOb SIXTY Pb ONE HUNDRED TWENTY P",
      "b LATIN SMALL LETTER Db HCb HDRb HI-RESb LOSSLESSb SHVb UHDb VODaMASK WORK SYMBOL"]),
   (0x1F1E6, ["aREGIONAL INDICATOR SYMBOL LETTER Ae Be Ce De Ee Fe Ge He Ie Je Ke Le Me Ne Oe P",
      "e Qe Re Se Te Ue Ve We Xe Ye ZaSQUARE HIRAGANA HOKAaSQUARED KATAKANA KOKOc SA"]),
   (0x1F210, ["aSQUARED CJK UNIFIED IDEOGRAPH-624Be-5B57e-53CCb KATAKANA DE",
      "b CJK UNIFIED IDEOGRAPH-4E8Ce-591Ae-89E3e-5929e-4EA4e-6620e-7121e-6599e-524De-5F8Ce-518D",
      "e-65B0e-521De-7D42e-751Fe-8CA9e-58F0e-5439e-6F14e-6295e-6355e-4E00e-4E09e-904Ae-5DE6",
      "e-4E2De-53F3e-6307e-8D70e-6253e-7981e-7A7Ae-5408e-6E80e-6709e-6708e-7533e-5272e-55B6",
      "e-914D"]),
   (0x1F240, ["aTORTOISE SHELL BRACKETED CJK UNIFIED IDEOGRAPH-672Cg-4E09g-4E8Cg-5B89g-70B9",
      "g-6253g-76D7g-52DDg-6557"]),
   (0x1F250, ["aCIRCLED IDEOGRAPH ADVANTAGEc ACCEPT"]),
   (0x1F260, ["aROUNDED SYMBOL FOR FUd LUd SHOUd XId SHUANGXId CAI"]),
   (0x1F300, ["aCYCLONEaFOGGYaCLOSED UMBRELLAaNIGHT WITH STARSaSUNRISE OVER MOUNTAINSb",
      "aCITYSCAPE AT DUSKaSUNSET OVER BUILDINGSaRAINBOWaBRIDGE AT NIGHTaWATER WAVEaVOLCANO",
      "aMILKY WAYaEARTH GLOBE EUROPE-AFRICAc AMERICASc ASIA-AUSTRALIAaGLOBE WITH MERIDIANS",
      "aNEW MOON SYMBOLaWAXING CRESCENT MOON SYMBOLaFIRST QUARTER MOON SYMBOL",
      "aWAXING GIBBOUS MOON SYMBOLaFULL MOON SYMBOLaWANING GIBBOUS MOON SYMBOL",
      "aLAST QUARTER MOON SYMBOLaWANING CRESCENT MOON SYMBOLaCRESCENT MOONaNEW MOON WITH FACE",
      "aFIRST QUARTER MOON WITH FACEaLAST QUARTER MOON WITH FACEaFULL MOON WITH FACE",
      "aSUN WITH FACEaGLOWING STARaSHOOTING STARaTHERMOMETERaBLACK DROPLETaWHITE SUN",
      "c WITH SMALL CLOUDc BEHIND CLOUDe WITH RAINaCLOUD WITH RAINc SNOWc LIGHTNINGc TORNADO",
      "aFOGaWIND BLOWING FACEaHOT DOGaTACOaBURRITOaCHESTNUTaSEEDLINGaEVERGREEN TREE",
      "aDECIDUOUS TREEaPALM TREEaCACTUSaHOT PEPPERaTULIPaCHERRY BLOSSOMaROSEaHIBISCUSaSUNFLOWER",
      "aBLOSSOMaEAR OF MAIZEc RICEaHERBaFOUR LEAF CLOVERaMAPLE LEAFaFALLEN LEAF",
      "aLEAF FLUTTERING IN WINDaMUSHROOMaTOMATOaAUBERGINEaGRAPESaMELONaWATERMELONaTANGERINE",
      "aLEMONaBANANAaPINEAPPLEaRED APPLEaGREEN APPLEaPEARaPEACHaCHERRIESaSTRAWBERRYaHAMBURGER",
      "aSLICE OF PIZZAaMEAT ON BONEaPOULTRY LEGaRICE CRACKERb BALLaCOOKED RICEaCURRY AND RICE",
      "aSTEAMING BOWLaSPAGHETTIaBREADaFRENCH FRIESaROASTED SWEET POTATOaDANGOaODENaSUSHI",
      "aFRIED SHRIMPaFISH CAKE WITH SWIRL DESIGNaSOFT ICE CREAMaSHAVED ICEaICE CREAMaDOUGHNUT",
      "aCOOKIEaCHOCOLATE BARaCANDYaLOLLIPOPaCUSTARDaHONEY POTaSHORTCAKEaBENTO BOXaPOT OF FOOD",
      "aCOOKINGaFORK AND KNIFEaTEACUP WITHOUT HANDLEaSAKE BOTTLE AND CUPaWINE GLASS",
      "aCOCKTAIL GLASSaTROPICAL DRINKaBEER MUGaCLINKING BEER MUGSaBABY BOTTLE",
      "aFORK AND KNIFE WITH PLATEaBOTTLE WITH POPPING CORKaPOPCORNaRIBBONaWRAPPED PRESENT",
      "aBIRTHDAY CAKEaJACK-O-LANTERNaCHRISTMAS TREEaFATHER CHRISTMASaFIREWORKS",
      "aFIREWORK SPARKLERaBALLOONaPARTY POPPERaCONFETTI BALLaTANABATA TREEaCROSSED FLAGS",
      "aPINE DECORATIONaJAPANESE DOLLSaCARP STREAMERaWIND CHIMEaMOON VIEWING CEREMONY",
      "aSCHOOL SATCHELaGRADUATION CAPaHEART WITH TIP ON THE LEFTaBOUQUET OF FLOWERS",
      "aMILITARY MEDALaREMINDER RIBBONaMUSICAL KEYBOARD WITH JACKSaSTUDIO MICROPHONE",
      "aLEVEL SLIDERaCONTROL KNOBSaBEAMED ASCENDING MUSICAL NOTESb DESCENDING MUSICAL NOTES",
      "aFILM FRAMESaADMISSION TICKETSaCAROUSEL HORSEaFERRIS WHEELaROLLER COASTER",
      "aFISHING POLE AND FISHaMICROPHONEaMOVIE CAMERAaCINEMAaHEADPHONEaARTIST PALETTEaTOP HAT",
      "aCIRCUS TENTaTICKETaCLAPPER BOARDaPERFORMING ARTSaVIDEO GAMEaDIRECT HITaSLOT MACHINE",
      "aBILLIARDSaGAME DIEaBOWLINGaFLOWER PLAYING CARDSaMUSICAL NOTEaMULTIPLE MUSICAL NOTES",
      "aSAXOPHONEaGUITARaMUSICAL KEYBOARDaTRUMPETaVIOLINaMUSICAL SCOREaRUNNING SHIRT WITH SASH",
      "aTENNIS RACQUET AND BALLaSKI AND SKI BOOTaBASKETBALL AND HOOPaCHEQUERED FLAGaSNOWBOARDER",
      "aRUNNERaSURFERaSPORTS MEDALaTROPHYaHORSE RACINGaAMERICAN FOOTBALLaRUGBY FOOTBALLaSWIMMER",
      "aWEIGHT LIFTERaGOLFERaRACING MOTORCYCLEb CARaCRICKET BAT AND BALLaVOLLEYBALL",
      "aFIELD HOCKEY STICK AND BALLaICE HOCKEY STICK AND PUCKaTABLE TENNIS PADDLE AND BALL",
      "aSNOW CAPPED MOUNTAINaCAMPINGaBEACH WITH UMBRELLAaBUILDING CONSTRUCTIONaHOUSE BUILDINGS",
      "aCITYSCAPEaDERELICT HOUSE BUILDINGaCLASSICAL BUILDINGaDESERTb ISLANDaNATIONAL PARK",
      "aSTADIUMaHOUSE BUILDINGb WITH GARDENaOFFICE BUILDINGaJAPANESE POST OFFICE",
      "aEUROPEAN POST OFFICEaHOSPITALaBANKaAUTOMATED TELLER MACHINEaHOTELaLOVE HOTEL",
      "aCONVENIENCE STOREaSCHOOLaDEPARTMENT STOREaFACTORYaIZAKAYA LANTERNaJAPANESE CASTLE",
      "aEUROPEAN CASTLEaWHITE PENNANTaBLACK PENNANTaWAVING WHITE FLAGb BLACK FLAGaROSETTE",
      "aBLACK ROSETTEaLABELaBADMINTON RACQUET AND SHUTTLECOCKaBOW AND ARROWaAMPHORA",
      "aEMOJI MODIFIER FITZPATRICK TYPE-1-2e-3e-4e-5e-6aRATaMOUSEaOXaWATER BUFFALOaCOWaTIGER",
      "aLEOPARDaRABBITaCATaDRAGONaCROCODILEaWHALEaSNAILaSNAKEaHORSEaRAMaGOATaSHEEPaMONKEY",
      "aROOSTERaCHICKENaDOGaPIGaBOARaELEPHANTaOCTOPUSaSPIRAL SHELLaBUGaANTaHONEYBEEaLADY BEETLE",
      "aFISHaTROPICAL FISHaBLOWFISHaTURTLEaHATCHING CHICKaBABY CHICKaFRONT-FACING BABY CHICK",
      "aBIRDaPENGUINaKOALAaPOODLEaDROMEDARY CAMELaBACTRIAN CAMELaDOLPHINaMOUSE FACEaCOW FACE",
      "aTIGER FACEaRABBIT FACEaCAT FACEaDRAGON FACEaSPOUTING WHALEaHORSE FACEaMONKEY FACE",
      "aDOG FACEaPIG FACEaFROG FACEaHAMSTER FACEaWOLF FACEaBEAR FACEaPANDA FACEaPIG NOSE",
      "aPAW PRINTSaCHIPMUNKaEYESaEYEaEARaNOSEaMOUTHaTONGUEaWHITE UP POINTING BACKHAND INDEX",
      "b DOWN POINTING BACKHAND INDEXb LEFT POINTING BACKHAND INDEX",
      "b RIGHT POINTING BACKHAND INDEXaFISTED HAND SIGNaWAVING HAND SIGNaOK HAND SIGN",
      "aTHUMBS UP SIGNb DOWN SIGNaCLAPPING HANDS SIGNaOPEN HANDS SIGNaCROWNaWOMANS HAT",
      "aEYEGLASSESaNECKTIEaT-SHIRTaJEANSaDRESSaKIMONOaBIKINIaWOMANS CLOTHESaPURSEaHANDBAGaPOUCH",
      "aMANS SHOEaATHLETIC SHOEaHIGH-HEELED SHOEaWOMANS SANDALb BOOTSaFOOTPRINTS",
      "aBUST IN SILHOUETTEaBUSTS IN SILHOUETTEaBOYaGIRLaMANaWOMANaFAMILY",
      "aMAN AND WOMAN HOLDING HANDSaTWO MEN HOLDING HANDSb WOMEN HOLDING HANDSaPOLICE OFFICER",
      "aWOMAN WITH BUNNY EARSaBRIDE WITH VEILaPERSON WITH BLOND HAIRaMAN WITH GUA PI MAO",
      "c TURBANaOLDER MANb WOMANaBABYaCONSTRUCTION WORKERaPRINCESSaJAPANESE OGREb GOBLINaGHOST",
      "aBABY ANGELaEXTRATERRESTRIAL ALIENaALIEN MONSTERaIMPaSKULLaINFORMATION DESK PERSON",
      "aGUARDSMANaDANCERaLIPSTICKaNAIL POLISHaFACE MASSAGEaHAIRCUTaBARBER POLEaSYRINGEaPILL",
      "aKISS MARKaLOVE LETTERaRINGaGEM STONEaKISSaBOUQUETaCOUPLE WITH HEARTaWEDDING",
      "aBEATING HEARTaBROKEN HEARTaTWO HEARTSaSPARKLING HEARTaGROWING HEARTaHEART WITH ARROW",
      "aBLUE HEARTaGREEN HEARTaYELLOW HEARTaPURPLE HEARTaHEART WITH RIBBONaREVOLVING HEARTS",
      "aHEART DECORATIONaDIAMOND SHAPE WITH A DOT INSIDEaELECTRIC LIGHT BULBaANGER SYMBOLaBOMB",
      "aSLEEPING SYMBOLaCOLLISION SYMBOLaSPLASHING SWEAT SYMBOLaDROPLETaDASH SYMBOLaPILE OF POO",
      "aFLEXED BICEPSaDIZZY SYMBOLaSPEECH BALLOONaTHOUGHT BALLOONaWHITE FLOWER",
      "aHUNDRED POINTS SYMBOLaMONEY BAGaCURRENCY EXCHANGEaHEAVY DOLLAR SIGNaCREDIT CARD",
      "aBANKNOTE WITH YEN SIGNc DOLLAR SIGNc EURO SIGNc POUND SIGNaMONEY WITH WINGS",
      "aCHART WITH UPWARDS TREND AND YEN SIGNaSEATaPERSONAL COMPUTERaBRIEFCASEaMINIDISC",
      "aFLOPPY DISKaOPTICAL DISCaDVDaFILE FOLDERaOPEN FILE FOLDERaPAGE WITH CURLb FACING UP",
      "aCALENDARaTEAR-OFF CALENDARaCARD INDEXaCHART WITH UPWARDS TRENDc DOWNWARDS TREND",
      "aBAR CHARTaCLIPBOARDaPUSHPINaROUND PUSHPINaPAPERCLIPaSTRAIGHT RULERaTRIANGULAR RULER",
      "aBOOKMARK TABSaLEDGERaNOTEBOOKb WITH DECORATIVE COVERaCLOSED BOOKaOPEN BOOKaGREEN BOOK",
      "aBLUE BOOKaORANGE BOOKaBOOKSaNAME BADGEaSCROLLaMEMOaTELEPHONE RECEIVERaPAGERaFAX MACHINE",
      "aSATELLITE ANTENNAaPUBLIC ADDRESS LOUDSPEAKERaCHEERING MEGAPHONEaOUTBOX TRAYaINBOX TRAY",
      "aPACKAGEaE-MAIL SYMBOLaINCOMING ENVELOPEaENVELOPE WITH DOWNWARDS ARROW ABOVE",
      "aCLOSED MAILBOX WITH LOWERED FLAGd RAISED FLAGaOPEN MAILBOX WITH RAISED FLAG",
      "d LOWERED FLAGaPOSTBOXaPOSTAL HORNaNEWSPAPERaMOBILE PHONEc WITH RIGHTWARDS ARROW AT LEFT",
      "aVIBRATION MODEaMOBILE PHONE OFFaNO MOBILE PHONESaANTENNA WITH BARSaCAMERAb WITH FLASH",
      "aVIDEO CAMERAaTELEVISIONaRADIOaVIDEOCASSETTEaFILM PROJECTORaPORTABLE STEREOaPRAYER BEADS",
      "aTWISTED RIGHTWARDS ARROWSaCLOCKWISE RIGHTWARDS AND LEFTWARDS OPEN CIRCLE ARROWS",
      "h WITH CIRCLED ONE OVERLAYb DOWNWARDS AND UPWARDS OPEN CIRCLE ARROWS",
      "aANTICLOCKWISE DOWNWARDS AND UPWARDS OPEN CIRCLE ARROWSaLOW BRIGHTNESS SYMBOL",
      "aHIGH BRIGHTNESS SYMBOLaSPEAKER WITH CANCELLATION STROKEbb WITH ONE SOUND WAVE",
      "c THREE SOUND WAVESaBATTERYaELECTRIC PLUGaLEFT-POINTING MAGNIFYING GLASS",
      "aRIGHT-POINTING MAGNIFYING GLASSaLOCK WITH INK PENaCLOSED LOCK WITH KEYaKEYaLOCK",
      "aOPEN LOCKaBELLb WITH CANCELLATION STROKEaBOOKMARKaLINK SYMBOLaRADIO BUTTON",
      "aBACK WITH LEFTWARDS ARROW ABOVEaEND WITH LEFTWARDS ARROW ABOVE",
      "aON WITH EXCLAMATION MARK WITH LEFT RIGHT ARROW ABOVEaSOON WITH RIGHTWARDS ARROW ABOVE",
      "aTOP WITH UPWARDS ARROW ABOVEaNO ONE UNDER EIGHTEEN SYMBOLaKEYCAP TEN",
      "aINPUT SYMBOL FOR LATIN CAPITAL LETTERSe SMALL LETTERSd NUMBERSd SYMBOLSd LATIN LETTERS",
      "aFIREaELECTRIC TORCHaWRENCHaHAMMERaNUT AND BOLTaHOCHOaPISTOLaMICROSCOPEaTELESCOPE",
      "aCRYSTAL BALLaSIX POINTED STAR WITH MIDDLE DOTaJAPANESE SYMBOL FOR BEGINNER",
      "aTRIDENT EMBLEMaBLACK SQUARE BUTTONaWHITE SQUARE BUTTONaLARGE RED CIRCLEb BLUE CIRCLE",
      "b ORANGE DIAMONDb BLUE DIAMONDaSMALL ORANGE DIAMONDb BLUE DIAMOND",
      "aUP-POINTING RED TRIANGLEaDOWN-POINTING RED TRIANGLEaUP-POINTING SMALL RED TRIANGLE",
      "aDOWN-POINTING SMALL RED TRIANGLEaLOWER RIGHT SHADOWED WHITE CIRCLE",
      "aUPPER RIGHT SHADOWED WHITE CIRCLEaCIRCLED CROSS POMMEE",
      "aCROSS POMMEE WITH HALF-CIRCLE BELOWcaNOTCHED LEFT SEMICIRCLE WITH THREE DOTS",
      "b RIGHT SEMICIRCLE WITH THREE DOTSaSYMBOL FOR MARKS CHAPTERaWHITE LATIN CROSS",
      "aHEAVY LATIN CROSSaCELTIC CROSSaOM SYMBOLaDOVE OF PEACEaKAABAaMOSQUEaSYNAGOGUE",
      "aMENORAH WITH NINE BRANCHESaBOWL OF HYGIEIAaCLOCK FACE ONE OCLOCKc TWO OCLOCK",
      "c THREE OCLOCKc FOUR OCLOCKc FIVE OCLOCKc SIX OCLOCKc SEVEN OCLOCKc EIGHT OCLOCK",
      "c NINE OCLOCKc TEN OCLOCKc ELEVEN OCLOCKc TWELVE OCLOCKc ONE-THIRTYc TWO-THIRTY",
      "c THREE-THIRTYc FOUR-THIRTYc FIVE-THIRTYc SIX-THIRTYc SEVEN-THIRTYc EIGHT-THIRTY",
      "c NINE-THIRTYc TEN-THIRTYc ELEVEN-THIRTYc TWELVE-THIRTYaRIGHT SPEAKER",
      "c WITH ONE SOUND WAVEd THREE SOUND WAVESaBULLHORNb WITH SOUND WAVESaRINGING BELLaBOOK",
      "aCANDLEaMANTELPIECE CLOCKaBLACK SKULL AND CROSSBONESaNO PIRACYaHOLE",
      "aMAN IN BUSINESS SUIT LEVITATINGaSLEUTH OR SPYaDARK SUNGLASSESaSPIDERb WEBaJOYSTICK",
      "aMAN DANCINGaLEFT HAND TELEPHONE RECEIVERaTELEPHONE RECEIVER WITH PAGE",
      "aRIGHT HAND TELEPHONE RECEIVERaWHITE TOUCHTONE TELEPHONEaBLACK TOUCHTONE TELEPHONE",
      "aTELEPHONE ON TOP OF MODEMaCLAMSHELL MOBILE PHONEaBACK OF ENVELOPEaSTAMPED ENVELOPE",
      "aENVELOPE WITH LIGHTNINGaFLYING ENVELOPEaPEN OVER STAMPED ENVELOPEaLINKED PAPERCLIPS",
      "aBLACK PUSHPINaLOWER LEFT PENCILc BALLPOINT PENc FOUNTAIN PENc PAINTBRUSHc CRAYON",
      "aLEFT WRITING HANDaTURNED OK HAND SIGNaRAISED HAND WITH FINGERS SPLAYED",
      "aREVERSED RAISED HAND WITH FINGERS SPLAYEDb THUMBS UP SIGNc DOWN SIGNb VICTORY HAND",
      "b HAND WITH MIDDLE FINGER EXTENDEDaRAISED HAND WITH PART BETWEEN MIDDLE AND RING FINGERS",
      "aWHITE DOWN POINTING LEFT HAND INDEXaSIDEWAYS WHITE LEFT POINTING INDEX",
      "c RIGHT POINTING INDEXb BLACK LEFT POINTING INDEXc RIGHT POINTING INDEX",
      "aBLACK LEFT POINTING BACKHAND INDEXb RIGHT POINTING BACKHAND INDEX",
      "aSIDEWAYS WHITE UP POINTING INDEXc DOWN POINTING INDEXb BLACK UP POINTING INDEX",
      "c DOWN POINTING INDEXaBLACK UP POINTING BACKHAND INDEXb DOWN POINTING BACKHAND INDEX",
      "b HEARTaDESKTOP COMPUTERaKEYBOARD AND MOUSEaTHREE NETWORKED COMPUTERSaPRINTER",
      "aPOCKET CALCULATORaBLACK HARD SHELL FLOPPY DISKaWHITE HARD SHELL FLOPPY DISK",
      "aSOFT SHELL FLOPPY DISKaTAPE CARTRIDGEaWIRED KEYBOARDaONE BUTTON MOUSEaTWO BUTTON MOUSE",
      "aTHREE BUTTON MOUSEaTRACKBALLaOLD PERSONAL COMPUTERaHARD DISKaSCREENaPRINTER ICON",
      "aFAX ICONaOPTICAL DISC ICONaDOCUMENT WITH TEXTd AND PICTUREc PICTUREaFRAME WITH PICTURE",
      "c TILESc AN XaBLACK FOLDERaFOLDERaOPEN FOLDERaCARD INDEX DIVIDERSb FILE BOXaFILE CABINET",
      "aEMPTY NOTEc PAGEc PADaNOTEb PAGEb PADaEMPTY DOCUMENTb PAGEb PAGESaDOCUMENTaPAGEaPAGES",
      "aWASTEBASKETaSPIRAL NOTE PADb CALENDAR PADaDESKTOP WINDOWaMINIMIZEaMAXIMIZEaOVERLAP",
      "aCLOCKWISE RIGHT AND LEFT SEMICIRCLE ARROWSaCANCELLATION XaINCREASE FONT SIZE SYMBOL",
      "aDECREASE FONT SIZE SYMBOLaCOMPRESSIONaOLD KEYaROLLED-UP NEWSPAPER",
      "aPAGE WITH CIRCLED TEXTaSTOCK CHARTaDAGGER KNIFEaLIPSaSPEAKING HEAD IN SILHOUETTE",
      "aTHREE RAYS ABOVEc BELOWc LEFTc RIGHTaLEFT SPEECH BUBBLEaRIGHT SPEECH BUBBLE",
      "aTWO SPEECH BUBBLESaTHREE SPEECH BUBBLESaLEFT THOUGHT BUBBLEaRIGHT THOUGHT BUBBLE",
      "aLEFT ANGER BUBBLEaRIGHT ANGER BUBBLEaMOOD BUBBLEaLIGHTNING MOOD BUBBLEc",
      "aBALLOT BOX WITH BALLOTb SCRIPT Xb BOX WITH SCRIPT Xb BOLD SCRIPT X",
      "b BOX WITH BOLD SCRIPT XaLIGHT CHECK MARKaBALLOT BOX WITH BOLD CHECKaWORLD MAP",
      "aMOUNT FUJIaTOKYO TOWERaSTATUE OF LIBERTYaSILHOUETTE OF JAPANaMOYAIaGRINNING FACE",
      "c WITH SMILING EYESaFACE WITH TEARS OF JOYaSMILING FACE WITH OPEN MOUTH",
      "f AND SMILING EYESg COLD SWEATg TIGHTLY-CLOSED EYESd HALOd HORNSaWINKING FACE",
      "aSMILING FACE WITH SMILING EYESaFACE SAVOURING DELICIOUS FOODaRELIEVED FACE",
      "aSMILING FACE WITH HEART-SHAPED EYESd SUNGLASSESaSMIRKING FACEaNEUTRAL FACE",
      "aEXPRESSIONLESS FACEaUNAMUSED FACEaFACE WITH COLD SWEATaPENSIVE FACEaCONFUSED FACE",
      "aCONFOUNDED FACEaKISSING FACEaFACE THROWING A KISSaKISSING FACE WITH SMILING EYES",
      "d CLOSED EYESaFACE WITH STUCK-OUT TONGUEf AND WINKING EYEg TIGHTLY-CLOSED EYES",
      "aDISAPPOINTED FACEaWORRIED FACEaANGRY FACEaPOUTING FACEaCRYING FACEaPERSEVERING FACE",
      "aFACE WITH LOOK OF TRIUMPHaDISAPPOINTED BUT RELIEVED FACEaFROWNING FACE WITH OPEN MOUTH",
      "aANGUISHED FACEaFEARFUL FACEaWEARY FACEaSLEEPY FACEaTIRED FACEaGRIMACING FACE",
      "aLOUDLY CRYING FACEaFACE WITH OPEN MOUTHaHUSHED FACEaFACE WITH OPEN MOUTH AND COLD SWEAT",
      "b SCREAMING IN FEARaASTONISHED FACEaFLUSHED FACEaSLEEPING FACEaDIZZY FACE",
      "aFACE WITHOUT MOUTHb WITH MEDICAL MASKaGRINNING CAT FACE WITH SMILING EYES",
      "aCAT FACE WITH TEARS OF JOYaSMILING CAT FACE WITH OPEN MOUTHe HEART-SHAPED EYES",
      "aCAT FACE WITH WRY SMILEaKISSING CAT FACE WITH CLOSED EYESaPOUTING CAT FACE",
      "aCRYING CAT FACEaWEARY CAT FACEaSLIGHTLY FROWNING FACEb SMILING FACEaUPSIDE-DOWN FACE",
      "aFACE WITH ROLLING EYESc NO GOOD GESTUREc OK GESTUREaPERSON BOWING DEEPLY",
      "aSEE-NO-EVIL MONKEYaHEAR-NO-EVIL MONKEYaSPEAK-NO-EVIL MONKEY",
      "aHAPPY PERSON RAISING ONE HANDaPERSON RAISING BOTH HANDS IN CELEBRATIONb FROWNING",
      "b WITH POUTING FACEc FOLDED HANDSaNORTH WEST POINTING LEAFaSOUTH WEST POINTING LEAF",
      "aNORTH EAST POINTING LEAFaSOUTH EAST POINTING LEAFaTURNED NORTH WEST POINTING LEAF",
      "b SOUTH WEST POINTING LEAFb NORTH EAST POINTING LEAFb SOUTH EAST POINTING LEAF",
      "aNORTH WEST POINTING VINE LEAFaSOUTH WEST POINTING VINE LEAF",
      "aNORTH EAST POINTING VINE LEAFaSOUTH EAST POINTING VINE LEAF",
      "aHEAVY NORTH WEST POINTING VINE LEAFb SOUTH WEST POINTING VINE LEAF",
      "b NORTH EAST POINTING VINE LEAFb SOUTH EAST POINTING VINE LEAFaNORTH WEST POINTING BUD",
      "aSOUTH WEST POINTING BUDaNORTH EAST POINTING BUDaSOUTH EAST POINTING BUD",
      "aHEAVY NORTH WEST POINTING BUDb SOUTH WEST POINTING BUDb NORTH EAST POINTING BUD",
      "b SOUTH EAST POINTING BUDaHOLLOW QUILT SQUARE ORNAMENTe IN BLACK SQUARE",
      "aSOLID QUILT SQUARE ORNAMENTe IN BLACK SQUAREaLEFTWARDS ROCKETaUPWARDS ROCKET",
      "aRIGHTWARDS ROCKETaDOWNWARDS ROCKETaSCRIPT LIGATURE ET ORNAMENT",
      "aHEAVY SCRIPT LIGATURE ET ORNAMENTaLIGATURE OPEN ET ORNAMENT",
      "aHEAVY LIGATURE OPEN ET ORNAMENTb AMPERSAND ORNAMENTaSWASH AMPERSAND ORNAMENT",
      "aSANS-SERIF HEAVY DOUBLE TURNED COMMA QUOTATION MARK ORNAMENT",
      "e COMMA QUOTATION MARK ORNAMENTd LOW DOUBLE COMMA QUOTATION MARK ORNAMENT",
      "aHEAVY INTERROBANG ORNAMENTaSANS-SERIF INTERROBANG ORNAMENT",
      "aHEAVY SANS-SERIF INTERROBANG ORNAMENTaVERY HEAVY SOLIDUSc REVERSE SOLIDUSaCHECKER BOARD",
      "aREVERSE CHECKER BOARDaROCKETaHELICOPTERaSTEAM LOCOMOTIVEaRAILWAY CARaHIGH-SPEED TRAIN",
      "d WITH BULLET NOSEaTRAINaMETROaLIGHT RAILaSTATIONaTRAMb CARaBUSaONCOMING BUSaTROLLEYBUS",
      "aBUS STOPaMINIBUSaAMBULANCEaFIRE ENGINEaPOLICE CARaONCOMING POLICE CARaTAXI",
      "aONCOMING TAXIaAUTOMOBILEaONCOMING AUTOMOBILEaRECREATIONAL VEHICLEaDELIVERY TRUCK",
      "aARTICULATED LORRYaTRACTORaMONORAILaMOUNTAIN RAILWAYaSUSPENSION RAILWAY",
      "aMOUNTAIN CABLEWAYaAERIAL TRAMWAYaSHIPaROWBOATaSPEEDBOATaHORIZONTAL TRAFFIC LIGHT",
      "aVERTICAL TRAFFIC LIGHTaCONSTRUCTION SIGNaPOLICE CARS REVOLVING LIGHT",
      "aTRIANGULAR FLAG ON POSTaDOORaNO ENTRY SIGNaSMOKING SYMBOLaNO SMOKING SYMBOL",
      "aPUT LITTER IN ITS PLACE SYMBOLaDO NOT LITTER SYMBOLaPOTABLE WATER SYMBOL",
      "aNON-POTABLE WATER SYMBOLaBICYCLEaNO BICYCLESaBICYCLISTaMOUNTAIN BICYCLISTaPEDESTRIAN",
      "aNO PEDESTRIANSaCHILDREN CROSSINGaMENS SYMBOLaWOMENS SYMBOLaRESTROOMaBABY SYMBOLaTOILET",
      "aWATER CLOSETaSHOWERaBATHaBATHTUBaPASSPORT CONTROLaCUSTOMSaBAGGAGE CLAIMaLEFT LUGGAGE",
      "aTRIANGLE WITH ROUNDED CORNERSaPROHIBITED SIGNaCIRCLED INFORMATION SOURCEaBOYS SYMBOL",
      "aGIRLS SYMBOLaCOUCH AND LAMPaSLEEPING ACCOMMODATIONaSHOPPING BAGSaBELLHOP BELLaBED",
      "aPLACE OF WORSHIPaOCTAGONAL SIGNaSHOPPING TROLLEYaSTUPAaPAGODAaHINDU TEMPLEaHUTaELEVATOR"]),
   (0x1F6DD, ["aPLAYGROUND SLIDEaWHEELaRING BUOYaHAMMER AND WRENCHaSHIELDaOIL DRUMaMOTORWAY",
      "aRAILWAY TRACKaMOTOR BOATaUP-POINTING MILITARY AIRPLANEc AIRPLANEc SMALL AIRPLANE",
      "aSMALL AIRPLANEaNORTHEAST-POINTING AIRPLANEaAIRPLANE DEPARTUREb ARRIVING"]),
   (0x1F6F0, ["aSATELLITEaONCOMING FIRE ENGINEaDIESEL LOCOMOTIVEaPASSENGER SHIPaSCOOTER",
      "aMOTOR SCOOTERaCANOEaSLEDaFLYING SAUCERaSKATEBOARDaAUTO RICKSHAWaPICKUP TRUCK",
      "aROLLER SKATE"]),
   (0x1F700, ["aALCHEMICAL SYMBOL FOR QUINTESSENCEd AIRd FIREd EARTHd WATERd AQUAFORTIS",
      "d AQUA REGIAf-2e VITAEf-2d VINEGARe-2e-3d SULFURd PHILOSOPHERS SULFURd BLACK SULFUR",
      "d MERCURY SUBLIMATEf-2f-3d CINNABARd SALTd NITREd VITRIOLe-2d ROCK SALTf-2d GOLDd SILVER",
      "d IRON OREf-2d CROCUS OF IRONd REGULUS OF IRONd COPPER OREd IRON-COPPER ORE",
      "d SUBLIMATE OF COPPERd CROCUS OF COPPERg-2d COPPER ANTIMONIATE",
      "d SALT OF COPPER ANTIMONIATEd SUBLIMATE OF SALT OF COPPERd VERDIGRISd TIN OREd LEAD ORE",
      "d ANTIMONY OREd SUBLIMATE OF ANTIMONYd SALT OF ANTIMONYd SUBLIMATE OF SALT OF ANTIMONY",
      "d VINEGAR OF ANTIMONYd REGULUS OF ANTIMONYg-2ee-2e-3e-4d ALKALIe-2d MARCASITE",
      "d SAL-AMMONIACd ARSENICd REALGARe-2d AURIPIGMENTd BISMUTH OREd TARTARe-2d QUICK LIME",
      "d BORAXe-2e-3d ALUMd OILd SPIRITd TINCTUREd GUMd WAXd POWDERd CALXd TUTTYd CAPUT MORTUUM",
      "d SCEPTER OF JOVEd CADUCEUSd TRIDENTd STARRED TRIDENTd LODESTONEd SOAPd URINE",
      "d HORSE DUNGd ASHESd POT ASHESd BRICKd POWDERED BRICKd AMALGAMd STRATUM SUPER STRATUMg-2",
      "d SUBLIMATIONd PRECIPITATEd DISTILLd DISSOLVEe-2d PURIFYd PUTREFACTIONd CRUCIBLEe-2e-3",
      "e-4e-5d ALEMBICd BATH OF MARYf VAPOURSd RETORTd HOURd NIGHTd DAY-NIGHTd MONTHd HALF DRAM",
      "e OUNCE"]),
   (0x1F780, ["aBLACK LEFT-POINTING ISOSCELES RIGHT TRIANGLE",
      "b UP-POINTING ISOSCELES RIGHT TRIANGLEb RIGHT-POINTING ISOSCELES RIGHT TRIANGLE",
      "b DOWN-POINTING ISOSCELES RIGHT TRIANGLEb SLIGHTLY SMALL CIRCLEaMEDIUM BOLD WHITE CIRCLE",
      "aBOLD WHITE CIRCLEaHEAVY WHITE CIRCLEaVERY HEAVY WHITE CIRCLE",
      "aEXTREMELY HEAVY WHITE CIRCLEaWHITE CIRCLE CONTAINING BLACK SMALL CIRCLEaROUND TARGET",
      "aBLACK TINY SQUAREb SLIGHTLY SMALL SQUAREaLIGHT WHITE SQUAREaMEDIUM WHITE SQUARE",
      "aBOLD WHITE SQUAREaHEAVY WHITE SQUAREaVERY HEAVY WHITE SQUARE",
      "aEXTREMELY HEAVY WHITE SQUAREaWHITE SQUARE CONTAINING BLACK VERY SMALL SQUARE",
      "e MEDIUM SQUAREaSQUARE TARGETaBLACK TINY DIAMONDb VERY SMALL DIAMOND",
      "b MEDIUM SMALL DIAMONDaWHITE DIAMOND CONTAINING BLACK VERY SMALL DIAMONDe MEDIUM DIAMOND",
      "aDIAMOND TARGETaBLACK TINY LOZENGEb VERY SMALL LOZENGEb MEDIUM SMALL LOZENGE",
      "aWHITE LOZENGE CONTAINING BLACK SMALL LOZENGEaTHIN GREEK CROSSaLIGHT GREEK CROSS",
      "aMEDIUM GREEK CROSSaBOLD GREEK CROSSaVERY BOLD GREEK CROSSb HEAVY GREEK CROSS",
      "aEXTREMELY HEAVY GREEK CROSSaTHIN SALTIREaLIGHT SALTIREaMEDIUM SALTIREaBOLD SALTIRE",
      "aHEAVY SALTIREaVERY HEAVY SALTIREaEXTREMELY HEAVY SALTIREaLIGHT FIVE SPOKED ASTERISK",
      "aMEDIUM FIVE SPOKED ASTERISKaBOLD FIVE SPOKED ASTERISKaHEAVY FIVE SPOKED ASTERISK",
      "aVERY HEAVY FIVE SPOKED ASTERISKaEXTREMELY HEAVY FIVE SPOKED ASTERISK",
      "aLIGHT SIX SPOKED ASTERISKaMEDIUM SIX SPOKED ASTERISKaBOLD SIX SPOKED ASTERISK",
      "aHEAVY SIX SPOKED ASTERISKaVERY HEAVY SIX SPOKED ASTERISK",
      "aEXTREMELY HEAVY SIX SPOKED ASTERISKaLIGHT EIGHT SPOKED ASTERISK",
      "aMEDIUM EIGHT SPOKED ASTERISKaBOLD EIGHT SPOKED ASTERISKaHEAVY EIGHT SPOKED ASTERISK",
      "aVERY HEAVY EIGHT SPOKED ASTERISKaLIGHT THREE POINTED BLACK STAR",
      "aMEDIUM THREE POINTED BLACK STARaTHREE POINTED BLACK STAR",
      "aMEDIUM THREE POINTED PINWHEEL STARaLIGHT FOUR POINTED BLACK STAR",
      "aMEDIUM FOUR POINTED BLACK STARaFOUR POINTED BLACK STAR",
      "aMEDIUM FOUR POINTED PINWHEEL STARaREVERSE LIGHT FOUR POINTED PINWHEEL STAR",
      "aLIGHT FIVE POINTED BLACK STARaHEAVY FIVE POINTED BLACK STAR",
      "aMEDIUM SIX POINTED BLACK STARaHEAVY SIX POINTED BLACK STARaSIX POINTED PINWHEEL STAR",
      "aMEDIUM EIGHT POINTED BLACK STARaHEAVY EIGHT POINTED BLACK STAR",
      "aVERY HEAVY EIGHT POINTED BLACK STARaHEAVY EIGHT POINTED PINWHEEL STAR",
      "aLIGHT TWELVE POINTED BLACK STARaHEAVY TWELVE POINTED BLACK STARd PINWHEEL STAR",
      "aCIRCLED TRIANGLEaNEGATIVE CIRCLED TRIANGLEaCIRCLED SQUAREaNEGATIVE CIRCLED SQUARE"]),
   (0x1F7E0, ["aLARGE ORANGE CIRCLEb YELLOW CIRCLEb GREEN CIRCLEb PURPLE CIRCLEb BROWN CIRCLE",
      "b RED SQUAREb BLUE SQUAREb ORANGE SQUAREb YELLOW SQUAREb GREEN SQUAREb PURPLE SQUARE",
      "b BROWN SQUARE"]),
   (0x1F7F0, ["aHEAVY EQUALS SIGN"]),
   (0x1F800, ["aLEFTWARDS ARROW WITH SMALL TRIANGLE ARROWHEAD",
      "aUPWARDS ARROW WITH SMALL TRIANGLE ARROWHEAD",
      "aRIGHTWARDS ARROW WITH SMALL TRIANGLE ARROWHEAD",
      "aDOWNWARDS ARROW WITH SMALL TRIANGLE ARROWHEAD",
      "aLEFTWARDS ARROW WITH MEDIUM TRIANGLE ARROWHEAD",
      "aUPWARDS ARROW WITH MEDIUM TRIANGLE ARROWHEAD",
      "aRIGHTWARDS ARROW WITH MEDIUM TRIANGLE ARROWHEAD",
      "aDOWNWARDS ARROW WITH MEDIUM TRIANGLE ARROWHEAD",
      "aLEFTWARDS ARROW WITH LARGE TRIANGLE ARROWHEAD",
      "aUPWARDS ARROW WITH LARGE TRIANGLE ARROWHEAD",
      "aRIGHTWARDS ARROW WITH LARGE TRIANGLE ARROWHEAD",
      "aDOWNWARDS ARROW WITH LARGE TRIANGLE ARROWHEAD"]),
   (0x1F810, ["aLEFTWARDS ARROW WITH SMALL EQUILATERAL ARROWHEAD",
      "aUPWARDS ARROW WITH SMALL EQUILATERAL ARROWHEAD",
      "aRIGHTWARDS ARROW WITH SMALL EQUILATERAL ARROWHEAD",
      "aDOWNWARDS ARROW WITH SMALL EQUILATERAL ARROWHEAD",
      "aLEFTWARDS ARROW WITH EQUILATERAL ARROWHEADaUPWARDS ARROW WITH EQUILATERAL ARROWHEAD",
      "aRIGHTWARDS ARROW WITH EQUILATERAL ARROWHEADaDOWNWARDS ARROW WITH EQUILATERAL ARROWHEAD",
      "aHEAVY LEFTWARDS ARROW WITH EQUILATERAL ARROWHEAD",
      "b UPWARDS ARROW WITH EQUILATERAL ARROWHEADb RIGHTWARDS ARROW WITH EQUILATERAL ARROWHEAD",
      "b DOWNWARDS ARROW WITH EQUILATERAL ARROWHEAD",
      "b LEFTWARDS ARROW WITH LARGE EQUILATERAL ARROWHEAD",
      "b UPWARDS ARROW WITH LARGE EQUILATERAL ARROWHEAD",
      "b RIGHTWARDS ARROW WITH LARGE EQUILATERAL ARROWHEAD",
      "b DOWNWARDS ARROW WITH LARGE EQUILATERAL ARROWHEAD",
      "aLEFTWARDS TRIANGLE-HEADED ARROW WITH NARROW SHAFT",
      "aUPWARDS TRIANGLE-HEADED ARROW WITH NARROW SHAFT",
      "aRIGHTWARDS TRIANGLE-HEADED ARROW WITH NARROW SHAFT",
      "aDOWNWARDS TRIANGLE-HEADED ARROW WITH NARROW SHAFT",
      "aLEFTWARDS TRIANGLE-HEADED ARROW WITH MEDIUM SHAFT",
      "aUPWARDS TRIANGLE-HEADED ARROW WITH MEDIUM SHAFT",
      "aRIGHTWARDS TRIANGLE-HEADED ARROW WITH MEDIUM SHAFT",
      "aDOWNWARDS TRIANGLE-HEADED ARROW WITH MEDIUM SHAFT",
      "aLEFTWARDS TRIANGLE-HEADED ARROW WITH BOLD SHAFT",
      "aUPWARDS TRIANGLE-HEADED ARROW WITH BOLD SHAFT",
      "aRIGHTWARDS TRIANGLE-HEADED ARROW WITH BOLD SHAFT",
      "aDOWNWARDS TRIANGLE-HEADED ARROW WITH BOLD SHAFT",
      "aLEFTWARDS TRIANGLE-HEADED ARROW WITH HEAVY SHAFT",
      "aUPWARDS TRIANGLE-HEADED ARROW WITH HEAVY SHAFT",
      "aRIGHTWARDS TRIANGLE-HEADED ARROW WITH HEAVY SHAFT",
      "aDOWNWARDS TRIANGLE-HEADED ARROW WITH HEAVY SHAFT",
      "aLEFTWARDS TRIANGLE-HEADED ARROW WITH VERY HEAVY SHAFT",
      "aUPWARDS TRIANGLE-HEADED ARROW WITH VERY HEAVY SHAFT",
      "aRIGHTWARDS TRIANGLE-HEADED ARROW WITH VERY HEAVY SHAFT",
      "aDOWNWARDS TRIANGLE-HEADED ARROW WITH VERY HEAVY SHAFTaLEFTWARDS FINGER-POST ARROW",
      "aUPWARDS FINGER-POST ARROWaRIGHTWARDS FINGER-POST ARROWaDOWNWARDS FINGER-POST ARROW",
      "aLEFTWARDS SQUARED ARROWaUPWARDS SQUARED ARROWaRIGHTWARDS SQUARED ARROW",
      "aDOWNWARDS SQUARED ARROWaLEFTWARDS COMPRESSED ARROWaUPWARDS COMPRESSED ARROW",
      "aRIGHTWARDS COMPRESSED ARROWaDOWNWARDS COMPRESSED ARROWaLEFTWARDS HEAVY COMPRESSED ARROW",
      "aUPWARDS HEAVY COMPRESSED ARROWaRIGHTWARDS HEAVY COMPRESSED ARROW",
      "aDOWNWARDS HEAVY COMPRESSED ARROWaLEFTWARDS HEAVY ARROWaUPWARDS HEAVY ARROW",
      "aRIGHTWARDS HEAVY ARROWaDOWNWARDS HEAVY ARROW"]),
   (0x1F850, ["aLEFTWARDS SANS-SERIF ARROWaUPWARDS SANS-SERIF ARROWaRIGHTWARDS SANS-SERIF ARROW",
      "aDOWNWARDS SANS-SERIF ARROWaNORTH WEST SANS-SERIF ARROWb EAST SANS-SERIF ARROW",
      "aSOUTH EAST SANS-SERIF ARROWb WEST SANS-SERIF ARROWaLEFT RIGHT SANS-SERIF ARROW",
      "aUP DOWN SANS-SERIF ARROW"]),
   (0x1F860, ["aWIDE-HEADED LEFTWARDS LIGHT BARB ARROWc UPWARDS LIGHT BARB ARROW",
      "c RIGHTWARDS LIGHT BARB ARROWc DOWNWARDS LIGHT BARB ARROWc NORTH WEST LIGHT BARB ARROW",
      "d EAST LIGHT BARB ARROWc SOUTH EAST LIGHT BARB ARROWd WEST LIGHT BARB ARROW",
      "c LEFTWARDS BARB ARROWc UPWARDS BARB ARROWc RIGHTWARDS BARB ARROWc DOWNWARDS BARB ARROW",
      "c NORTH WEST BARB ARROWd EAST BARB ARROWc SOUTH EAST BARB ARROWd WEST BARB ARROW",
      "c LEFTWARDS MEDIUM BARB ARROWc UPWARDS MEDIUM BARB ARROWc RIGHTWARDS MEDIUM BARB ARROW",
      "c DOWNWARDS MEDIUM BARB ARROWc NORTH WEST MEDIUM BARB ARROWd EAST MEDIUM BARB ARROW",
      "c SOUTH EAST MEDIUM BARB ARROWd WEST MEDIUM BARB ARROWc LEFTWARDS HEAVY BARB ARROW",
      "c UPWARDS HEAVY BARB ARROWc RIGHTWARDS HEAVY BARB ARROWc DOWNWARDS HEAVY BARB ARROW",
      "c NORTH WEST HEAVY BARB ARROWd EAST HEAVY BARB ARROWc SOUTH EAST HEAVY BARB ARROW",
      "d WEST HEAVY BARB ARROWc LEFTWARDS VERY HEAVY BARB ARROWc UPWARDS VERY HEAVY BARB ARROW",
      "c RIGHTWARDS VERY HEAVY BARB ARROWc DOWNWARDS VERY HEAVY BARB ARROW",
      "c NORTH WEST VERY HEAVY BARB ARROWd EAST VERY HEAVY BARB ARROW",
      "c SOUTH EAST VERY HEAVY BARB ARROWd WEST VERY HEAVY BARB ARROW"]),
   (0x1F890, ["aLEFTWARDS TRIANGLE ARROWHEADaUPWARDS TRIANGLE ARROWHEAD",
      "aRIGHTWARDS TRIANGLE ARROWHEADaDOWNWARDS TRIANGLE ARROWHEAD",
      "aLEFTWARDS WHITE ARROW WITHIN TRIANGLE ARROWHEAD",
      "aUPWARDS WHITE ARROW WITHIN TRIANGLE ARROWHEAD",
      "aRIGHTWARDS WHITE ARROW WITHIN TRIANGLE ARROWHEAD",
      "aDOWNWARDS WHITE ARROW WITHIN TRIANGLE ARROWHEADaLEFTWARDS ARROW WITH NOTCHED TAIL",
      "aUPWARDS ARROW WITH NOTCHED TAILaRIGHTWARDS ARROW WITH NOTCHED TAIL",
      "aDOWNWARDS ARROW WITH NOTCHED TAILaHEAVY ARROW SHAFT WIDTH ONEe TWO THIRDSe ONE HALF",
      "f THIRDaLEFTWARDS BOTTOM-SHADED WHITE ARROWaRIGHTWARDS BOTTOM SHADED WHITE ARROW",
      "aLEFTWARDS TOP SHADED WHITE ARROWaRIGHTWARDS TOP SHADED WHITE ARROW",
      "aLEFTWARDS LEFT-SHADED WHITE ARROWaRIGHTWARDS RIGHT-SHADED WHITE ARROW",
      "aLEFTWARDS RIGHT-SHADED WHITE ARROWaRIGHTWARDS LEFT-SHADED WHITE ARROW",
      "aLEFTWARDS BACK-TILTED SHADOWED WHITE ARROWaRIGHTWARDS BACK-TILTED SHADOWED WHITE ARROW",
      "aLEFTWARDS FRONT-TILTED SHADOWED WHITE ARROW",
      "aRIGHTWARDS FRONT-TILTED SHADOWED WHITE ARROWaWHITE ARROW SHAFT WIDTH ONEe TWO THIRDS"]),
   (0x1F8B0, ["aARROW POINTING UPWARDS THEN NORTH WESTc RIGHTWARDS THEN CURVING SOUTH WEST"]),
   (0x1F900, ["aCIRCLED CROSS FORMEE WITH FOUR DOTSe TWO DOTSdaLEFT HALF CIRCLE WITH FOUR DOTS",
      "e THREE DOTSe TWO DOTSe DOTdaDOWNWARD FACING HOOKc NOTCHED HOOKc HOOK WITH DOT",
      "c NOTCHED HOOK WITH DOTaPINCHED FINGERSaWHITE HEARTaBROWN HEARTaPINCHING HAND",
      "aZIPPER-MOUTH FACEaMONEY-MOUTH FACEaFACE WITH THERMOMETERaNERD FACEaTHINKING FACE",
      "aFACE WITH HEAD-BANDAGEaROBOT FACEaHUGGING FACEaSIGN OF THE HORNSaCALL ME HAND",
      "aRAISED BACK OF HANDaLEFT-FACING FISTaRIGHT-FACING FISTaHANDSHAKE",
      "aHAND WITH INDEX AND MIDDLE FINGERS CROSSEDaI LOVE YOU HAND SIGNaFACE WITH COWBOY HAT",
      "aCLOWN FACEaNAUSEATED FACEaROLLING ON THE FLOOR LAUGHINGaDROOLING FACEaLYING FACE",
      "aFACE PALMaSNEEZING FACEaFACE WITH ONE EYEBROW RAISEDaGRINNING FACE WITH STAR EYES",
      "d ONE LARGE AND ONE SMALL EYEaFACE WITH FINGER COVERING CLOSED LIPS",
      "aSERIOUS FACE WITH SYMBOLS COVERING MOUTH",
      "aSMILING FACE WITH SMILING EYES AND HAND COVERING MOUTHaFACE WITH OPEN MOUTH VOMITING",
      "aSHOCKED FACE WITH EXPLODING HEADaPREGNANT WOMANaBREAST-FEEDINGaPALMS UP TOGETHERaSELFIE",
      "aPRINCEaMAN IN TUXEDOaMOTHER CHRISTMASaSHRUGaPERSON DOING CARTWHEELaJUGGLINGaFENCER",
      "aMODERN PENTATHLONaWRESTLERSaWATER POLOaHANDBALLaDIVING MASKaWILTED FLOWER",
      "aDRUM WITH DRUMSTICKSaCLINKING GLASSESaTUMBLER GLASSaSPOONaGOAL NETaRIFLE",
      "aFIRST PLACE MEDALaSECOND PLACE MEDALaTHIRD PLACE MEDALaBOXING GLOVE",
      "aMARTIAL ARTS UNIFORMaCURLING STONEaLACROSSE STICK AND BALLaSOFTBALLaFLYING DISC",
      "aCROISSANTaAVOCADOaCUCUMBERaBACONaPOTATOaCARROTaBAGUETTE BREADaGREEN SALAD",
      "aSHALLOW PAN OF FOODaSTUFFED FLATBREADaEGGaGLASS OF MILKaPEANUTSaKIWIFRUITaPANCAKES",
      "aDUMPLINGaFORTUNE COOKIEaTAKEOUT BOXaCHOPSTICKSaBOWL WITH SPOONaCUP WITH STRAWaCOCONUT",
      "aBROCCOLIaPIEaPRETZELaCUT OF MEATaSANDWICHaCANNED FOODaLEAFY GREENaMANGOaMOON CAKEaBAGEL",
      "aSMILING FACE WITH SMILING EYES AND THREE HEARTSaYAWNING FACEaSMILING FACE WITH TEAR",
      "aFACE WITH PARTY HORN AND PARTY HATc UNEVEN EYES AND WAVY MOUTHaOVERHEATED FACE",
      "aFREEZING FACEaNINJAaDISGUISED FACEaFACE HOLDING BACK TEARSb WITH PLEADING EYESaSARI",
      "aLAB COATaGOGGLESaHIKING BOOTaFLAT SHOEaCRABaLION FACEaSCORPIONaTURKEYaUNICORN FACE",
      "aEAGLEaDUCKaBATaSHARKaOWLaFOX FACEaBUTTERFLYaDEERaGORILLAaLIZARDaRHINOCEROSaSHRIMPaSQUID",
      "aGIRAFFE FACEaZEBRA FACEaHEDGEHOGaSAUROPODaT-REXaCRICKETaKANGAROOaLLAMAaPEACOCK",
      "aHIPPOPOTAMUSaPARROTaRACCOONaLOBSTERaMOSQUITOaMICROBEaBADGERaSWANaMAMMOTHaDODOaSLOTH",
      "aOTTERaORANGUTANaSKUNKaFLAMINGOaOYSTERaBEAVERaBISONaSEALaGUIDE DOGaPROBING CANE",
      "aEMOJI COMPONENT RED HAIRc CURLY HAIRc BALDc WHITE HAIRaBONEaLEGaFOOTaTOOTHaSUPERHERO",
      "aSUPERVILLAINaSAFETY VESTaEAR WITH HEARING AIDaMOTORIZED WHEELCHAIRaMANUAL WHEELCHAIR",
      "aMECHANICAL ARMb LEGaCHEESE WEDGEaCUPCAKEaSALT SHAKERaBEVERAGE BOXaGARLICaONIONaFALAFEL",
      "aWAFFLEaBUTTERaMATE DRINKaICE CUBEaBUBBLE TEAaTROLLaSTANDING PERSONaKNEELING PERSON",
      "aDEAF PERSONaFACE WITH MONOCLEaADULTaCHILDaOLDER ADULTaBEARDED PERSON",
      "aPERSON WITH HEADSCARFb IN STEAMY ROOMb CLIMBINGb IN LOTUS POSITIONaMAGEaFAIRYaVAMPIRE",
      "aMERPERSONaELFaGENIEaZOMBIEaBRAINaORANGE HEARTaBILLED CAPaSCARFaGLOVESaCOATaSOCKS",
      "aRED GIFT ENVELOPEaFIRECRACKERaJIGSAW PUZZLE PIECEaTEST TUBEaPETRI DISHaDNA DOUBLE HELIX",
      "aCOMPASSaABACUSaFIRE EXTINGUISHERaTOOLBOXaBRICKaMAGNETaLUGGAGEaLOTION BOTTLE",
      "aSPOOL OF THREADaBALL OF YARNaSAFETY PINaTEDDY BEARaBROOMaBASKETaROLL OF PAPER",
      "aBAR OF SOAPaSPONGEaRECEIPTaNAZAR AMULETaNEUTRAL CHESS KINGc QUEENc ROOKc BISHOPc KNIGHT",
      "c PAWNaWHITE CHESS KNIGHT ROTATED FORTY-FIVE DEGREES",
      "aBLACK CHESS KNIGHT ROTATED FORTY-FIVE DEGREES",
      "aNEUTRAL CHESS KNIGHT ROTATED FORTY-FIVE DEGREESaWHITE CHESS KING ROTATED NINETY DEGREES",
      "c QUEEN ROTATED NINETY DEGREESc ROOK ROTATED NINETY DEGREES",
      "c BISHOP ROTATED NINETY DEGREESc KNIGHT ROTATED NINETY DEGREES",
      "c PAWN ROTATED NINETY DEGREESaBLACK CHESS KING ROTATED NINETY DEGREES",
      "c QUEEN ROTATED NINETY DEGREESc ROOK ROTATED NINETY DEGREES",
      "c BISHOP ROTATED NINETY DEGREESc KNIGHT ROTATED NINETY DEGREES",
      "c PAWN ROTATED NINETY DEGREESaNEUTRAL CHESS KING ROTATED NINETY DEGREES",
      "c QUEEN ROTATED NINETY DEGREESc ROOK ROTATED NINETY DEGREES",
      "c BISHOP ROTATED NINETY DEGREESc KNIGHT ROTATED NINETY DEGREES",
      "c PAWN ROTATED NINETY DEGREESaWHITE CHESS KNIGHT ROTATED ONE HUNDRED THIRTY-FIVE DEGREES",
      "aBLACK CHESS KNIGHT ROTATED ONE HUNDRED THIRTY-FIVE DEGREES",
      "aNEUTRAL CHESS KNIGHT ROTATED ONE HUNDRED THIRTY-FIVE DEGREESaWHITE CHESS TURNED KING",
      "d QUEENd ROOKd BISHOPd KNIGHTd PAWNaBLACK CHESS TURNED KINGd QUEENd ROOKd BISHOPd KNIGHT",
      "d PAWNaNEUTRAL CHESS TURNED KINGd QUEENd ROOKd BISHOPd KNIGHTd PAWN",
      "aWHITE CHESS KNIGHT ROTATED TWO HUNDRED TWENTY-FIVE DEGREES",
      "aBLACK CHESS KNIGHT ROTATED TWO HUNDRED TWENTY-FIVE DEGREES",
      "aNEUTRAL CHESS KNIGHT ROTATED TWO HUNDRED TWENTY-FIVE DEGREES",
      "aWHITE CHESS KING ROTATED TWO HUNDRED SEVENTY DEGREES",
      "c QUEEN ROTATED TWO HUNDRED SEVENTY DEGREESc ROOK ROTATED TWO HUNDRED SEVENTY DEGREES",
      "c BISHOP ROTATED TWO HUNDRED SEVENTY DEGREESc KNIGHT ROTATED TWO HUNDRED SEVENTY DEGREES",
      "c PAWN ROTATED TWO HUNDRED SEVENTY DEGREES",
      "aBLACK CHESS KING ROTATED TWO HUNDRED SEVENTY DEGREES",
      "c QUEEN ROTATED TWO HUNDRED SEVENTY DEGREESc ROOK ROTATED TWO HUNDRED SEVENTY DEGREES",
      "c BISHOP ROTATED TWO HUNDRED SEVENTY DEGREESc KNIGHT ROTATED TWO HUNDRED SEVENTY DEGREES",
      "c PAWN ROTATED TWO HUNDRED SEVENTY DEGREES",
      "aNEUTRAL CHESS KING ROTATED TWO HUNDRED SEVENTY DEGREES",
      "c QUEEN ROTATED TWO HUNDRED SEVENTY DEGREESc ROOK ROTATED TWO HUNDRED SEVENTY DEGREES",
      "c BISHOP ROTATED TWO HUNDRED SEVENTY DEGREESc KNIGHT ROTATED TWO HUNDRED SEVENTY DEGREES",
      "c PAWN ROTATED TWO HUNDRED SEVENTY DEGREES",
      "aWHITE CHESS KNIGHT ROTATED THREE HUNDRED FIFTEEN DEGREES",
      "aBLACK CHESS KNIGHT ROTATED THREE HUNDRED FIFTEEN DEGREES",
      "aNEUTRAL CHESS KNIGHT ROTATED THREE HUNDRED FIFTEEN DEGREESaWHITE CHESS EQUIHOPPER",
      "aBLACK CHESS EQUIHOPPERaNEUTRAL CHESS EQUIHOPPER",
      "aWHITE CHESS EQUIHOPPER ROTATED NINETY DEGREES",
      "aBLACK CHESS EQUIHOPPER ROTATED NINETY DEGREES",
      "aNEUTRAL CHESS EQUIHOPPER ROTATED NINETY DEGREESaWHITE CHESS KNIGHT-QUEENd-ROOKd-BISHOP",
      "aBLACK CHESS KNIGHT-QUEENd-ROOKd-BISHOP"]),
   (0x1FA60, ["aXIANGQI RED GENERALc MANDARINc ELEPHANTc HORSEc CHARIOTc CANNONc SOLDIER",
      "b BLACK GENERALc MANDARINc ELEPHANTc HORSEc CHARIOTc CANNONc SOLDIER"]),
   (0x1FA70, ["aBALLET SHOESaONE-PIECE SWIMSUITaBRIEFSaSHORTSaTHONG SANDAL"]),
   (0x1FA78, ["aDROP OF BLOODaADHESIVE BANDAGEaSTETHOSCOPEaX-RAYaCRUTCH"]),
   (0x1FA80, ["aYO-YOaKITEaPARACHUTEaBOOMERANGaMAGIC WANDaPINATAaNESTING DOLLS"]),
   (0x1FA90, ["aRINGED PLANETaCHAIRaRAZORaAXEaDIYA LAMPaBANJOaMILITARY HELMETaACCORDION",
      "aLONG DRUMaCOINaCARPENTRY SAWaSCREWDRIVERaLADDERaHOOKaMIRRORaWINDOWaPLUNGER",
      "aSEWING NEEDLEaKNOTaBUCKETaMOUSE TRAPaTOOTHBRUSHaHEADSTONEaPLACARDaROCKaMIRROR BALL",
      "aIDENTIFICATION CARDaLOW BATTERYaHAMSA"]),
   (0x1FAB0, ["aFLYaWORMaBEETLEaCOCKROACHaPOTTED PLANTaWOODaFEATHERaLOTUSaCORALaEMPTY NEST",
      "aNEST WITH EGGS"]),
   (0x1FAC0, ["aANATOMICAL HEARTaLUNGSaPEOPLE HUGGINGaPREGNANT MANb PERSONaPERSON WITH CROWN"]),
   (0x1FAD0, ["aBLUEBERRIESaBELL PEPPERaOLIVEaFLATBREADaTAMALEaFONDUEaTEAPOTaPOURING LIQUID",
      "aBEANSaJAR"]),
   (0x1FAE0, ["aMELTING FACEaSALUTING FACEaFACE WITH OPEN EYES AND HAND OVER MOUTHc PEEKING EYE",
      "c DIAGONAL MOUTHaDOTTED LINE FACEaBITING LIPaBUBBLES"]),
   (0x1FAF0, ["aHAND WITH INDEX FINGER AND THUMB CROSSEDaRIGHTWARDS HANDaLEFTWARDS HAND",
      "aPALM DOWN HANDb UP HANDaINDEX POINTING AT THE VIEWERaHEART HANDS"]),
   (0x1FB00, ["aBLOCK SEXTANT-1c-2c-12c-3c-13c-23c-123c-4c-14c-24c-124c-34c-134c-234c-1234c-5",
      "c-15c-25c-125c-35c-235c-1235c-45c-145c-245c-1245c-345c-1345c-2345c-12345c-6c-16c-26c-126",
      "c-36c-136c-236c-1236c-46c-146c-1246c-346c-1346c-2346c-12346c-56c-156c-256c-1256c-356",
      "c-1356c-2356c-12356c-456c-1456c-2456c-12456c-3456c-13456c-23456",
      "aLOWER LEFT BLOCK DIAGONAL LOWER MIDDLE LEFT TO LOWER CENTREj RIGHT",
      "e UPPER MIDDLE LEFT TO LOWER CENTREj RIGHTf LEFT TO LOWER CENTRE",
      "b RIGHT BLOCK DIAGONAL UPPER MIDDLE LEFT TO UPPER CENTREj RIGHT",
      "e LOWER MIDDLE LEFT TO UPPER CENTREj RIGHTf LEFT TO UPPER CENTRE",
      "f MIDDLE LEFT TO UPPER MIDDLE RIGHTf CENTRE TO LOWER MIDDLE RIGHT",
      "f LEFT TO LOWER MIDDLE RIGHTf CENTRE TO UPPER MIDDLE RIGHTf LEFT TO UPPER MIDDLE RIGHT",
      "f CENTRE TO UPPER RIGHTb LEFT BLOCK DIAGONAL UPPER CENTRE TO UPPER MIDDLE RIGHT",
      "f LEFT TO UPPER MIDDLE RIGHTf CENTRE TO LOWER MIDDLE RIGHTf LEFT TO LOWER MIDDLE RIGHT",
      "f CENTRE TO LOWER RIGHTf MIDDLE LEFT TO LOWER MIDDLE RIGHT",
      "aUPPER RIGHT BLOCK DIAGONAL LOWER MIDDLE LEFT TO LOWER CENTREj RIGHT",
      "e UPPER MIDDLE LEFT TO LOWER CENTREj RIGHTf LEFT TO LOWER CENTRE",
      "b LEFT BLOCK DIAGONAL UPPER MIDDLE LEFT TO UPPER CENTREj RIGHT",
      "e LOWER MIDDLE LEFT TO UPPER CENTREj RIGHTf LEFT TO UPPER CENTRE",
      "f MIDDLE LEFT TO UPPER MIDDLE RIGHTf CENTRE TO LOWER MIDDLE RIGHT",
      "f LEFT TO LOWER MIDDLE RIGHTf CENTRE TO UPPER MIDDLE RIGHTf LEFT TO UPPER MIDDLE RIGHT",
      "f CENTRE TO UPPER RIGHTb RIGHT BLOCK DIAGONAL UPPER CENTRE TO UPPER MIDDLE RIGHT",
      "f LEFT TO UPPER MIDDLE RIGHTf CENTRE TO LOWER MIDDLE RIGHTf LEFT TO LOWER MIDDLE RIGHT",
      "f CENTRE TO LOWER RIGHTf MIDDLE LEFT TO LOWER MIDDLE RIGHT",
      "b AND RIGHT AND LOWER TRIANGULAR THREE QUARTERS BLOCK",
      "aLEFT AND LOWER AND RIGHT TRIANGULAR THREE QUARTERS BLOCK",
      "aUPPER AND LEFT AND LOWER TRIANGULAR THREE QUARTERS BLOCK",
      "aLEFT AND UPPER AND RIGHT TRIANGULAR THREE QUARTERS BLOCKb TRIANGULAR ONE QUARTER BLOCK",
      "aUPPER TRIANGULAR ONE QUARTER BLOCKaRIGHT TRIANGULAR ONE QUARTER BLOCK",
      "aLOWER TRIANGULAR ONE QUARTER BLOCKaVERTICAL ONE EIGHTH BLOCK-2e-3e-4e-5e-6e-7",
      "aHORIZONTAL ONE EIGHTH BLOCK-2e-3e-4e-5e-6e-7aLEFT AND LOWER ONE EIGHTH BLOCK",
      "c UPPER ONE EIGHTH BLOCKaRIGHT AND UPPER ONE EIGHTH BLOCKc LOWER ONE EIGHTH BLOCK",
      "aUPPER AND LOWER ONE EIGHTH BLOCKaHORIZONTAL ONE EIGHTH BLOCK-1358",
      "aUPPER ONE QUARTER BLOCKb THREE EIGHTHS BLOCKb FIVE EIGHTHS BLOCKb THREE QUARTERS BLOCK",
      "b SEVEN EIGHTHS BLOCKaRIGHT ONE QUARTER BLOCKb THREE EIGHTHS BLOCKb FIVE EIGHTHS BLOCK",
      "b THREE QUARTERS BLOCKb SEVEN EIGHTHS BLOCKaLEFT HALF MEDIUM SHADE",
      "aRIGHT HALF MEDIUM SHADEaUPPER HALF MEDIUM SHADEaLOWER HALF MEDIUM SHADE",
      "aINVERSE MEDIUM SHADEaUPPER HALF BLOCK AND LOWER HALF INVERSE MEDIUM SHADE",
      "c INVERSE MEDIUM SHADE AND LOWER HALF BLOCK"]),
   (0x1FB94, ["aLEFT HALF INVERSE MEDIUM SHADE AND RIGHT HALF BLOCKaCHECKER BOARD FILL",
      "aINVERSE CHECKER BOARD FILLaHEAVY HORIZONTAL FILLaUPPER LEFT TO LOWER RIGHT FILL",
      "b RIGHT TO LOWER LEFT FILLb AND LOWER TRIANGULAR HALF BLOCK",
      "aLEFT AND RIGHT TRIANGULAR HALF BLOCKaUPPER LEFT TRIANGULAR MEDIUM SHADE",
      "b RIGHT TRIANGULAR MEDIUM SHADEaLOWER RIGHT TRIANGULAR MEDIUM SHADE",
      "b LEFT TRIANGULAR MEDIUM SHADEaBOX DRAWINGS LIGHT DIAGONAL UPPER CENTRE TO MIDDLE LEFT",
      "i RIGHTe MIDDLE LEFT TO LOWER CENTREf RIGHT TO LOWER CENTRE",
      "e UPPER CENTRE TO MIDDLE LEFT TO LOWER CENTREi RIGHT TO LOWER CENTRE",
      "e MIDDLE LEFT TO LOWER CENTRE TO MIDDLE RIGHTh UPPER CENTRE TO MIDDLE RIGHT",
      "e UPPER CENTRE TO MIDDLE LEFT AND MIDDLE RIGHT TO LOWER CENTRE",
      "i RIGHT AND MIDDLE LEFT TO LOWER CENTREj TO LOWER CENTRE TO MIDDLE LEFT",
      "i LEFT TO LOWER CENTRE TO MIDDLE RIGHT",
      "e MIDDLE LEFT TO UPPER CENTRE TO MIDDLE RIGHT TO LOWER CENTRE",
      "f RIGHT TO UPPER CENTRE TO MIDDLE LEFT TO LOWER CENTREe DIAMOND",
      "d HORIZONTAL WITH VERTICAL STROKEaARROWHEAD-SHAPED POINTERaINVERSE CHECK MARK",
      "aLEFT HALF RUNNING MANaRIGHT HALF RUNNING MANaINVERSE DOWNWARDS ARROW WITH TIP LEFTWARDS",
      "aLEFTWARDS ARROW AND UPPER AND LOWER ONE EIGHTH BLOCK",
      "aRIGHTWARDS ARROW AND UPPER AND LOWER ONE EIGHTH BLOCK",
      "aDOWNWARDS ARROW AND RIGHT ONE EIGHTH BLOCKaUPWARDS ARROW AND RIGHT ONE EIGHTH BLOCK",
      "aLEFT HALF FOLDERaRIGHT HALF FOLDERaVOIDED GREEK CROSSaRIGHT OPEN SQUARED DOT",
      "aNEGATIVE DIAGONAL CROSSc MIDDLE RIGHT TO LOWER CENTREc DIAMOND",
      "aWHITE HEAVY SALTIRE WITH ROUNDED CORNERSaLEFT THIRD WHITE RIGHT POINTING INDEX",
      "aMIDDLE THIRD WHITE RIGHT POINTING INDEXaRIGHT THIRD WHITE RIGHT POINTING INDEX",
      "aNEGATIVE SQUARED QUESTION MARKaSTICK FIGUREc WITH ARMS RAISEDc LEANING LEFTd RIGHT",
      "c WITH DRESSaWHITE UP-POINTING CHEVRON"]),
   (0x1FBF0, ["aSEGMENTED DIGIT ZEROc ONEc TWOc THREEc FOURc FIVEc SIXc SEVENc EIGHTc NINE"]),
   (0xE0001, ["aLANGUAGE TAG"]),
   (0xE0020, ["aTAG SPACEb EXCLAMATION MARKb QUOTATION MARKb NUMBER SIGNb DOLLAR SIGN",
      "b PERCENT SIGNb AMPERSANDb APOSTROPHEb LEFT PARENTHESISb RIGHT PARENTHESISb ASTERISK",
      "b PLUS SIGNb COMMAb HYPHEN-MINUSb FULL STOPb SOLIDUSb DIGIT ZEROc ONEc TWOc THREEc FOUR",
      "c FIVEc SIXc SEVENc EIGHTc NINEb COLONb SEMICOLONb LESS-THAN SIGNb EQUALS SIGN",
      "b GREATER-THAN SIGNb QUESTION MARKb COMMERCIAL ATb LATIN CAPITAL LETTER Ae Be Ce De Ee F",
      "e Ge He Ie Je Ke Le Me Ne Oe Pe Qe Re Se Te Ue Ve We Xe Ye Zb LEFT SQUARE BRACKET",
      "b REVERSE SOLIDUSb RIGHT SQUARE BRACKETb CIRCUMFLEX ACCENTb LOW LINEb GRAVE ACCENT",
      "b LATIN SMALL LETTER Ae Be Ce De Ee Fe Ge He Ie Je Ke Le Me Ne Oe Pe Qe Re Se Te Ue Ve W",
      "e Xe Ye Zb LEFT CURLY BRACKETb VERTICAL LINEb RIGHT CURLY BRACKETb TILDEaCANCEL TAG"]),
   (0xE0100, ["aVARIATION SELECTOR-17c-18c-19c-20c-21c-22c-23c-24c-25c-26c-27c-28c-29c-30c-31",
      "c-32c-33c-34c-35c-36c-37c-38c-39c-40c-41c-42c-43c-44c-45c-46c-47c-48c-49c-50c-51c-52",
      "c-53c-54c-55c-56c-57c-58c-59c-60c-61c-62c-63c-64c-65c-66c-67c-68c-69c-70c-71c-72c-73",
      "c-74c-75c-76c-77c-78c-79c-80c-81c-82c-83c-84c-85c-86c-87c-88c-89c-90c-91c-92c-93c-94",
      "c-95c-96c-97c-98c-99c-100c-101c-102c-103c-104c-105c-106c-107c-108c-109c-110c-111c-112",
      "c-113c-114c-115c-116c-117c-118c-119c-120c-121c-122c-123c-124c-125c-126c-127c-128c-129",
      "c-130c-131c-132c-133c-134c-135c-136c-137c-138c-139c-140c-141c-142c-143c-144c-145c-146",
      "c-147c-148c-149c-150c-151c-152c-153c-154c-155c-156c-157c-158c-159c-160c-161c-162c-163",
      "c-164c-165c-166c-167c-168c-169c-170c-171c-172c-173c-174c-175c-176c-177c-178c-179c-180",
      "c-181c-182c-183c-184c-185c-186c-187c-188c-189c-190c-191c-192c-193c-194c-195c-196c-197",
      "c-198c-199c-200c-201c-202c-203c-204c-205c-206c-207c-208c-209c-210c-211c-212c-213c-214",
      "c-215c-216c-217c-218c-219c-220c-221c-222c-223c-224c-225c-226c-227c-228c-229c-230c-231",
      "c-232c-233c-234c-235c-236c-237c-238c-239c-240c-241c-242c-243c-244c-245c-246c-247c-248",
      "c-249c-250c-251c-252c-253c-254c-255c-256"])]

end PromptTree.Text
