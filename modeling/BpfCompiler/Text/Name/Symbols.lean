/-!
# Names: symbols

The names of punctuation, symbols and radicals from `U+2000` to `U+2FFF`.
-/

namespace BpfCompiler.Text.Name

def symbols : String := "
  =2000aEN_QUADbM_QUADbN_SPACEbM_SPACEaTHREE-PER-EM_SPACEaFOUR-PER-EM_SPACEaSIX-PER-EM_SPACEaFIGUR
  E_SPACEaPUNCTUATION_SPACEaTHIN_SPACEaHAIR_SPACEaZERO_WIDTH_SPACElNON-JOINERlJOINERaLEFT-TO-RIGHT
  _MARKaRIGHT-TO-LEFT_MARKaHYPHENaNON-BREAKING_HYPHENaFIGURE_DASHaEN_DASHbM_DASHaHORIZONTAL_BARaDO
  UBLE_VERTICAL_LINEhLOW_LINEaLEFT_SINGLE_QUOTATION_MARKaRIGHT_SINGLE_QUOTATION_MARKaSINGLE_LOW-9_
  QUOTATION_MARKhHIGH-REVERSED-9_QUOTATION_MARKaLEFT_DOUBLE_QUOTATION_MARKaRIGHT_DOUBLE_QUOTATION_
  MARKaDOUBLE_LOW-9_QUOTATION_MARKhHIGH-REVERSED-9_QUOTATION_MARKbAGGERbOUBLE_DAGGERaBULLETaTRIANG
  ULAR_BULLETaONE_DOT_LEADERaTWO_DOT_LEADERaHORIZONTAL_ELLIPSISbYPHENATION_POINTaLINE_SEPARATORaPA
  RAGRAPH_SEPARATORaLEFT-TO-RIGHT_EMBEDDINGaRIGHT-TO-LEFT_EMBEDDINGaPOP_DIRECTIONAL]ATTINGaLEFT-TO
  -RIGHT_OVERRIDEaRIGHT-TO-LEFT_OVERRIDEaNARROW_NO-BREAK_SPACEaPER_MILLE_SIGNeTEN_THOUSAND_SIGNbRI
  MEaDOUBLE_PRIMEaTRIPLE_PRIMEaREVERSED_PRIMEjDOUBLE_PRIMEjTRIPLE_PRIMEaCARETaSINGLE_LEFT-POINTING
  _ANGLE_QUOTATION_MARKhRIGHT-POINTING_ANGLE_QUOTATION_MARKaREFERENCE_MARKaDOUBLE_EXCLAMATION_MARK
  aINTERROBANGaOVERLINEaUNDERTIEaCHARACTER_TIEbARET_INSERTION_POINTaASTERISMaHYPHEN_BULLETaFRACTIO
  N_SLASHaLEFT_SQUARE_BRACKET@QUILLaRIGHT_SQUARE_BRACKET@QUILLaDOUBLE_QUESTION_MARKaQUESTION_EXCLA
  MATION_MARKaEXCLAMATION_QUESTION_MARKaTIRONIAN_SIGN_ETaREVERSED_PILCROW_SIGNaBLACK_LEFTWARDS_BUL
  LETgRIGHTWARDS_BULLETaLOW_ASTERISKaREVERSED_SEMICOLONaCLOSE_UPaTWO_ASTERISKS_ALIGNED_VERTICALLYa
  COMMERCIAL_MINUS_SIGNaSWUNG_DASHaINVERTED_UNDERTIEaFLOWER_PUNCTUATION_MARKaTHREE_DOT_PUNCTUATION
  aQUADRUPLE_PRIMEaFOUR_DOT_PUNCTUATIONbIVE_DOT_PUNCTUATIONaTWO_DOT_PUNCTUATIONaFOUR_DOT_MARKaDOTT
  ED_CROSSaTRICOLONaVERTICAL_FOUR_DOTSaMEDIUM_MATHEMATICAL_SPACEaWORD_JOINERaFUNCTION_APPLICATIONa
  INVISIBLE_TIMESkSEPARATORkPLUS=2066aLEFT-TO-RIGHT_ISOLATEaRIGHT-TO-LEFT_ISOLATEaFIRST_STRONG_ISO
  LATEaPOP_DIRECTIONAL_ISOLATEaINHIBIT_SYMMETRIC_SWAPPINGaACTIVATE_SYMMETRIC_SWAPPINGaINHIBIT_ARAB
  IC]_SHAPINGaACTIVATE_ARABIC]_SHAPINGaNATIONAL_DIGIT_SHAPESbOMINAL_DIGIT_SHAPESaSUPERSCRIPT_ZEROm
  LATIN_):I=2074mFOURnIVEmSIXnEVENmEIGHTmNINEmPLUS_SIGNmMINUSmEQUALS_SIGNmLEFT_PARENTHESISmRIGHT_P
  ARENTHESISmLATIN_):NcBSCRIPT_ZEROkONEkTWOlHREEkFOURlIVEkSIXlEVENkEIGHTkNINEkPLUS_SIGNkMINUSkEQUA
  LS_SIGNkLEFT_PARENTHESISkRIGHT_PARENTHESIS=2090aLATIN_SUBSCRIPT_):A&E&O&X&SCHWA&H&K&L&M&N&P&S&T=
  20A0aEURO-CURRENCY_SIGNaCOLON_SIGNbRUZEIRO_SIGNaFRENCH_FRANC_SIGNaLIRA_SIGNaMILL_SIGNaNAIRA_SIGN
  aPESETA_SIGNaRUPEE_SIGNaWON_SIGNaNEW_SHEQEL_SIGNaDONG_SIGNaEURO_SIGNaKIP_SIGNaTUGRIK_SIGNaDRACHM
  A_SIGNaGERMAN_PENNY_SIGNaPESO_SIGNaGUARANI_SIGNaAUSTRAL_SIGNaHRYVNIA_SIGNaCEDI_SIGNaLIVRE_TOURNO
  IS_SIGNaSPESMILO_SIGNaTENGE_SIGNaINDIAN_RUPEE_SIGNaTURKISH_LIRA_SIGNaNORDIC_MARK_SIGNaMANAT_SIGN
  aRUBLE_SIGNaLARI_SIGNaBITCOIN_SIGNaSOM_SIGN=20D0aCOMBINING_LEFT_HARPOON_ABOVEkRIGHT_HARPOON_ABOV
  EkLONG_VERTICAL_LINE_OVERLAYkSHORT_VERTICAL_LINE_OVERLAYkANTICLOCKWISE[_ABOVEkCLOCKWISE[_ABOVEkL
  EFT[_ABOVEkRIGHT[_ABOVEmNG_OVERLAYkCLOCKWISE_RING_OVERLAYkANTICLOCKWISE_RING_OVERLAYkTHREE_DOTS_
  ABOVEkFOUR_DOTS_ABOVEkENCLOSING_CIRCLEuSQUAREuDIAMONDuCIRCLE_BACKSLASHkLEFT_RIGHT[_ABOVEkENCLOSI
  NG_SCREENuKEYCAPuUPWARD_POINTING_TRIANGLEkREVERSE_SOLIDUS_OVERLAYkDOUBLE_VERTICAL_STROKE_OVERLAY
  kANNUITY_SYMBOLkTRIPLE_UNDERDOTkWIDE_BRIDGE_ABOVEkLEFTWARDS[_OVERLAYlONG_DOUBLE_SOLIDUS_OVERLAYk
  RIGHTWARDS_HARPOON@BARB_DOWNWARDSkLEFTWARDS_HARPOON@BARB_DOWNWARDSo[_BELOWkRIGHT[_BELOWkASTERISK
  _ABOVE=2100aACCOUNT_OFbDDRESSED_TO_THE_SUBJECTaDOUBLE-STRUCK_(_CbEGREE_CELSIUSaCENTRE_LINE_SYMBO
  LbARE_OFcDA_UNAaEULER_CONSTANTaSCRUPLEaDEGREE_FAHRENHEITaSCRIPT_)_Gh(_HaBLACK-LETTER_(_HaDOUBLE-
  STRUCK_(_HaPLANCK_CONSTANTp_OVER_TWO_PIaSCRIPT_(_IaBLACK-LETTER_(_IaSCRIPT_(_Lh)_LaL_B_BAR_SYMBO
  LaDOUBLE-STRUCK_(_NaNUMERO_SIGNaSOUND_RECORDING_COPYRIGHTbCRIPT_(_PaDOUBLE-STRUCK_(_PwQaSCRIPT_(
  _RaBLACK-LETTER_(_RaDOUBLE-STRUCK_(_RaPRESCRIPTION_TAKEaRESPONSEaSERVICE_MARKaTELEPHONE_SIGNbRAD
  E_MARK_SIGNaVERSICLEaDOUBLE-STRUCK_(_ZaOUNCE_SIGNbHM_SIGNaINVERTED_OHM_SIGNaBLACK-LETTER_(_ZaTUR
  NED_GREEK_):IOTAaKELVIN_SIGNaANGSTROM_SIGNaSCRIPT_(_BaBLACK-LETTER_(_CaESTIMATED_SYMBOLaSCRIPT_)
  _Eh(_EpFaTURNED_(_FaSCRIPT_(_Mh)_OaALEF_SYMBOLaBET_SYMBOLaGIMEL_SYMBOLaDALET_SYMBOLaINFORMATION_
  SOURCEaROTATED_(_QaFACSIMILE_SIGNaDOUBLE-STRUCK_)_PIuGAMMAo(_GAMMAwPIoN-ARY_SUMMATIONaTURNED_SAN
  S-SERIF_(_G!LaREVERSED_SANS-SERIF_(_LaTURNED_SANS-SERIF_(_YaDOUBLE-STRUCK_ITALIC_(_Dv)_D$E$I$JaP
  ROPERTY_LINEaTURNED_AMPERSANDaPER_SIGNaAKTIESELSKABaTURNED_)_FaSYMBOL_FOR_SAMARITAN_SOURCEaVULGA
  R_FRACTION_ONE_SEVENTHuNINTHuTENTHvHIRDqTWO_THIRDSqONE_FIFTHqTWO_FIFTHSrHREE_FIFTHSqFOUR_FIFTHSq
  ONE_SIXTHqFIVE_SIXTHSqONE_EIGHTHqTHREE_EIGHTHSqFIVE_EIGHTHSqSEVEN_EIGHTHSaFRACTION_NUMERATOR_ONE
  aROMAN_NUMERAL_ONEoTWOpHREEoFOURpIVEoSIXpEVENoEIGHToNINEoTENoELEVENoTWELVEoFIFTYoONE_HUNDREDoFIV
  E_HUNDREDoONE_THOUSANDa)_ROMAN_NUMERAL_ONEuTWOvHREEuFOURvIVEuSIXvEVENuEIGHTuNINEuTENuELEVENuTWEL
  VEuFIFTYuONE_HUNDREDuFIVE_HUNDREDuONE_THOUSANDaROMAN_NUMERAL_ONE_THOUSAND_C_DoFIVE_THOUSANDoTEN_
  THOUSANDoREVERSED_ONE_HUNDREDaLATIN_):REVERSED_CaROMAN_NUMERAL_SIX_LATE]oFIFTY_EARLY]uTHOUSANDoO
  NE_HUNDRED_THOUSANDaVULGAR_FRACTION_ZERO_THIRDSaTURNED_DIGIT_TWOoHREE=2190aLEFTWARDS[aUPWARDS[aR
  IGHTWARDS[aDOWNWARDS[aLEFT_RIGHT[aUP_DOWN[aNORTH_WEST[gEAST[aSOUTH_EAST[gWEST[aLEFTWARDS[@STROKE
  aRIGHTWARDS[@STROKEaLEFTWARDS_WAVE[aRIGHTWARDS_WAVE[aLEFTWARDS_TWO_HEADED[aUPWARDS_TWO_HEADED[aR
  IGHTWARDS_TWO_HEADED[aDOWNWARDS_TWO_HEADED[aLEFTWARDS[@TAILaRIGHTWARDS[@TAILaLEFTWARDS[_FROM_BAR
  aUPWARDS[_FROM_BARaRIGHTWARDS[_FROM_BARaDOWNWARDS[_FROM_BARaUP_DOWN[@BASEaLEFTWARDS[@HOOKaRIGHTW
  ARDS[@HOOKaLEFTWARDS[@LOOPaRIGHTWARDS[@LOOPaLEFT_RIGHT_WAVE[lARROW@STROKEaDOWNWARDS_ZIGZAG[aUPWA
  RDS[@TIP_LEFTWARDSxRIGHTWARDSaDOWNWARDS[@TIP_LEFTWARDSzRIGHTWARDSaRIGHTWARDS[@CORNER_DOWNWARDSaD
  OWNWARDS[@CORNER_LEFTWARDSaANTICLOCKWISE_TOP_SEMICIRCLE[aCLOCKWISE_TOP_SEMICIRCLE[aNORTH_WEST[_T
  O_LONG_BARaLEFTWARDS[_TO_BAR_OVER_RIGHTWARDS[_TO_BARaANTICLOCKWISE_OPEN_CIRCLE[aCLOCKWISE_OPEN_C
  IRCLE[aLEFTWARDS_HARPOON@BARB_UPWARDS%DOWNWARDSaUPWARDS_HARPOON@BARB_RIGHTWARDS!LEFTWARDSaRIGHTW
  ARDS_HARPOON@BARB_UPWARDS&DOWNWARDSaDOWNWARDS_HARPOON@BARB_RIGHTWARDS%LEFTWARDSaRIGHTWARDS[_OVER
  _LEFTWARDS[aUPWARDS[_LEFTWARDS_OF_DOWNWARDS[aLEFTWARDS[_OVER_RIGHTWARDS[kPAIRED[SaUPWARDS_PAIRED
  [SaRIGHTWARDS_PAIRED[SaDOWNWARDS_PAIRED[SaLEFTWARDS_HARPOON_OVER_RIGHTWARDS_HARPOONaRIGHTWARDS_H
  ARPOON_OVER_LEFTWARDS_HARPOONaLEFTWARDS_DOUBLE[@STROKEe_RIGHT_DOUBLE[@STROKEaRIGHTWARDS_DOUBLE[@
  STROKEaLEFTWARDS_DOUBLE[aUPWARDS_DOUBLE[aRIGHTWARDS_DOUBLE[aDOWNWARDS_DOUBLE[aLEFT_RIGHT_DOUBLE[
  aUP_DOWN_DOUBLE[aNORTH_WEST_DOUBLE[gEAST_DOUBLE[aSOUTH_EAST_DOUBLE[gWEST_DOUBLE[aLEFTWARDS_TRIPL
  E[aRIGHTWARDS_TRIPLE[aLEFTWARDS_SQUIGGLE[aRIGHTWARDS_SQUIGGLE[aUPWARDS[@DOUBLE_STROKEaDOWNWARDS[
  @DOUBLE_STROKEaLEFTWARDS_DASHED[aUPWARDS_DASHED[aRIGHTWARDS_DASHED[aDOWNWARDS_DASHED[aLEFTWARDS[
  _TO_BARaRIGHTWARDS[_TO_BARaLEFTWARDS_WHITE[aUPWARDS_WHITE[aRIGHTWARDS_WHITE[aDOWNWARDS_WHITE[aUP
  WARDS_WHITE[_FROM_BARuON_PEDESTAL+@HORIZONTAL_BAR?VERTICAL_BARoDOUBLE[!_ON_PEDESTALaRIGHTWARDS_W
  HITE[_FROM_WALLaNORTH_WEST[_TO_CORNERaSOUTH_EAST[_TO_CORNERaUP_DOWN_WHITE[aRIGHT[@)_CIRCLEaDOWNW
  ARDS[_LEFTWARDS_OF_UPWARDS[aTHREE_RIGHTWARDS[SaLEFTWARDS[@VERTICAL_STROKEaRIGHTWARDS[@VERTICAL_S
  TROKEaLEFT_RIGHT[@VERTICAL_STROKEeWARDS[@DOUBLE_VERTICAL_STROKEaRIGHTWARDS[@DOUBLE_VERTICAL_STRO
  KEaLEFT_RIGHT[@DOUBLE_VERTICAL_STROKEeWARDS_OPEN-HEADED[aRIGHTWARDS_OPEN-HEADED[aLEFT_RIGHT_OPEN
  -HEADED[aFOR_ALLaCOMPLEMENTaPARTIAL_DIFFERENTIALaTHERE_EXISTSgDOES_NOT_EXISTaEMPTY_SETaINCREMENT
  aNABLAaELEMENT_OFaNOT_AN_ELEMENT_OFa)_ELEMENT_OFaCONTAINS_AS_MEMBERaDOES_NOT_CONTAIN_AS_MEMBERa)
  _CONTAINS_AS_MEMBERaEND_OF_PROOFaN-ARY_PRODUCTgCOPRODUCTgSUMMATIONaMINUS_SIGNf-OR-PLUS_SIGNaDOT_
  PLUSbIVISION_SLASHaSET_MINUSaASTERISK_OPERATORaRING_OPERATORaBULLET_OPERATORaSQUARE_ROOTaCUBE_RO
  OTaFOURTH_ROOTaPROPORTIONAL_TOaINFINITYaRIGHT_ANGLEaANGLEaMEASURED_ANGLEaSPHERICAL_ANGLEaDIVIDES
  bOES_NOT_DIVIDEaPARALLEL_TOaNOT_PARALLEL_TOaLOGICAL_ANDiORaINTERSECTIONaUNIONaINTEGRALaDOUBLE_IN
  TEGRALaTRIPLE_INTEGRALaCONTOUR_INTEGRALaSURFACE_INTEGRALaVOLUME_INTEGRALaCLOCKWISE_INTEGRALkCONT
  OUR_INTEGRALaANTICLOCKWISE_CONTOUR_INTEGRALaTHEREFOREaBECAUSEaRATIOaPROPORTIONaDOT_MINUSaEXCESSa
  GEOMETRIC_PROPORTIONaHOMOTHETICaTILDE_OPERATORaREVERSED_TILDEaINVERTED_LAZY_SaSINE_WAVEaWREATH_P
  RODUCTaNOT_TILDEaMINUS_TILDEaASYMPTOTICALLY_EQUAL_TOaNOT_ASYMPTOTICALLY_EQUAL_TOaAPPROXIMATELY_E
  QUAL_TOoBUT_NOT_ACTUALLY_EQUAL_TOaNEITHER_APPROXIMATELY_NOR_ACTUALLY_EQUAL_TOaALMOST_EQUAL_TOaNO
  T_ALMOST_EQUAL_TOaALMOST_EQUAL_OR_EQUAL_TOaTRIPLE_TILDEaALL_EQUAL_TOaEQUIVALENT_TOaGEOMETRICALLY
  _EQUIVALENT_TOaDIFFERENCE_BETWEENaAPPROACHES_THE_LIMITaGEOMETRICALLY_EQUAL_TOaAPPROXIMATELY_EQUA
  L_TO_OR_THE_IMAGE_OFaIMAGE_OF_OR_APPROXIMATELY_EQUAL_TOaCOLON_EQUALSaEQUALS_COLONaRING_IN_EQUAL_
  TOfEQUAL_TOaCORRESPONDS_TOaESTIMATESbQUIANGULAR_TOaSTAR_EQUALSaDELTA_EQUAL_TOaEQUAL_TO_BY_DEFINI
  TIONaMEASURED_BYaQUESTIONED_EQUAL_TOaNOT_EQUAL_TOaIDENTICAL_TOaNOT_IDENTICAL_TOaSTRICTLY_EQUIVAL
  ENT_TOaLESS-THAN_OR_EQUAL_TOaGREATER-THAN_OR_EQUAL_TOaLESS-THAN_OVER_EQUAL_TOaGREATER-THAN_OVER_
  EQUAL_TOaLESS-THAN_BUT_NOT_EQUAL_TOaGREATER-THAN_BUT_NOT_EQUAL_TOaMUCH_LESS-THANfGREATER-THANaBE
  TWEENaNOT_EQUIVALENT_TOeLESS-THANeGREATER-THANbEITHER_LESS-THAN_NOR_EQUAL_TOiGREATER-THAN_NOR_EQ
  UAL_TOaLESS-THAN_OR_EQUIVALENT_TOaGREATER-THAN_OR_EQUIVALENT_TOaNEITHER_LESS-THAN_NOR_EQUIVALENT
  _TOiGREATER-THAN_NOR_EQUIVALENT_TOaLESS-THAN_OR_GREATER-THANaGREATER-THAN_OR_LESS-THANaNEITHER_L
  ESS-THAN_NOR_GREATER-THANiGREATER-THAN_NOR_LESS-THANaPRECEDESaSUCCEEDSaPRECEDES_OR_EQUAL_TOaSUCC
  EEDS_OR_EQUAL_TOaPRECEDES_OR_EQUIVALENT_TOaSUCCEEDS_OR_EQUIVALENT_TOaDOES_NOT_PRECEDEjSUCCEEDaSU
  BSET_OFcPERSET_OFaNOT_A_SUBSET_OFiPERSET_OFaSUBSET_OF_OR_EQUAL_TOcPERSET_OF_OR_EQUAL_TOaNEITHER_
  A_SUBSET_OF_NOR_EQUAL_TOmPERSET_OF_NOR_EQUAL_TOaSUBSET_OF@NOT_EQUAL_TOcPERSET_OF@NOT_EQUAL_TOaMU
  LTISETi_MULTIPLICATIONjUNIONaSQUARE_IMAGE_OFhORIGINAL_OFhIMAGE_OF_OR_EQUAL_TOhORIGINAL_OF_OR_EQU
  AL_TOhCAPiUPaCIRCLED_PLUSiMINUSiTIMESiDIVISION_SLASHjOT_OPERATORiRING_OPERATORiASTERISK_OPERATOR
  iEQUALSiDASHaSQUARED_PLUSiMINUSiTIMESiDOT_OPERATORaRIGHT_TACKaLEFT_TACKaDOWN_TACKaUP_TACKaASSERT
  IONaMODELSaTRUEaFORCESaTRIPLE_VERTICAL_BAR_RIGHT_TURNSTILEaDOUBLE_VERTICAL_BAR_DOUBLE_RIGHT_TURN
  STILEcES_NOT_PROVEaNOT_TRUEaDOES_NOT_FORCEaNEGATED_DOUBLE_VERTICAL_BAR_DOUBLE_RIGHT_TURNSTILEaPR
  ECEDES_UNDER_RELATIONaSUCCEEDS_UNDER_RELATIONaNORMAL_SUBGROUP_OFaCONTAINS_AS_NORMAL_SUBGROUPaNOR
  MAL_SUBGROUP_OF_OR_EQUAL_TOaCONTAINS_AS_NORMAL_SUBGROUP_OR_EQUAL_TOaORIGINAL_OFaIMAGE_OFaMULTIMA
  PaHERMITIAN_CONJUGATE_MATRIXaINTERCALATEaXORaNANDbORaRIGHT_ANGLE@ARCgTRIANGLEaN-ARY_LOGICAL_ANDo
  ORgINTERSECTIONgUNIONaDIAMOND_OPERATORbOT_OPERATORaSTAR_OPERATORaDIVISION_TIMESaBOWTIEaLEFT_NORM
  AL_FACTOR_SEMIDIRECT_PRODUCTaRIGHT_NORMAL_FACTOR_SEMIDIRECT_PRODUCTaLEFT_SEMIDIRECT_PRODUCTaRIGH
  T_SEMIDIRECT_PRODUCTbEVERSED_TILDE_EQUALSaCURLY_LOGICAL_ORoANDaDOUBLE_SUBSETjPERSEThINTERSECTION
  hUNIONaPITCHFORKaEQUAL/PARALLEL_TOaLESS-THAN@DOTaGREATER-THAN@DOTaVERY_MUCH_LESS-THANkGREATER-TH
  ANaLESS-THAN_EQUAL_TO_OR_GREATER-THANaGREATER-THAN_EQUAL_TO_OR_LESS-THANaEQUAL_TO_OR_LESS-THANmG
  REATER-THANmPRECEDESmSUCCEEDSaDOES_NOT_PRECEDE_OR_EQUALjSUCCEED_OR_EQUALaNOT_SQUARE_IMAGE_OF_OR_
  EQUAL_TOlORIGINAL_OF_OR_EQUAL_TOaSQUARE_IMAGE_OF_OR_NOT_EQUAL_TOhORIGINAL_OF_OR_NOT_EQUAL_TOaLES
  S-THAN_BUT_NOT_EQUIVALENT_TOaGREATER-THAN_BUT_NOT_EQUIVALENT_TOaPRECEDES_BUT_NOT_EQUIVALENT_TOaS
  UCCEEDS_BUT_NOT_EQUIVALENT_TOaNOT_NORMAL_SUBGROUP_OFaDOES_NOT_CONTAIN_AS_NORMAL_SUBGROUPaNOT_NOR
  MAL_SUBGROUP_OF_OR_EQUAL_TOaDOES_NOT_CONTAIN_AS_NORMAL_SUBGROUP_OR_EQUALaVERTICAL_ELLIPSISaMIDLI
  NE_HORIZONTAL_ELLIPSISaUP_RIGHT_DIAGONAL_ELLIPSISaDOWN_RIGHT_DIAGONAL_ELLIPSISaELEMENT_OF@LONG_H
  ORIZONTAL_STROKEqVERTICAL_BAR_AT_END_OF_HORIZONTAL_STROKEa)_ELEMENT_OF@VERTICAL_BAR_AT_END_OF_HO
  RIZONTAL_STROKEaELEMENT_OF@DOT_ABOVEqOVERBARa)_ELEMENT_OF@OVERBARaELEMENT_OF@UNDERBARqTWO_HORIZO
  NTAL_STROKESaCONTAINS@LONG_HORIZONTAL_STROKEoVERTICAL_BAR_AT_END_OF_HORIZONTAL_STROKEa)_CONTAINS
  @VERTICAL_BAR_AT_END_OF_HORIZONTAL_STROKEaCONTAINS@OVERBARa)_CONTAINS@OVERBARaZ_NOTATION_BAG_MEM
  BERSHIPaDIAMETER_SIGNaELECTRIC[aHOUSEaUP[HEADaDOWN[HEADaPROJECTIVEbERSPECTIVEaWAVY_LINEaLEFT_CEI
  LINGaRIGHT_CEILINGaLEFT_FLOORaRIGHT_FLOORaBOTTOM_RIGHT_CROPhLEFT_CROPaTOP_RIGHT_CROPeLEFT_CROPaR
  EVERSED_NOT_SIGNaSQUARE_LOZENGEaARCaSEGMENTcCTORaTELEPHONE_RECORDERaPOSITION_INDICATORaVIEWDATA_
  SQUAREaPLACE_OF_INTEREST_SIGNaTURNED_NOT_SIGNaWATCHaHOURGLASSaTOP_LEFT_CORNEReRIGHT_CORNERaBOTTO
  M_LEFT_CORNERhRIGHT_CORNERaTOP_HALF_INTEGRALaBOTTOM_HALF_INTEGRALaFROWNaSMILEaUP[HEAD_BETWEEN_TW
  O_HORIZONTAL_BARSaOPTION_KEYaERASE_TO_THE_RIGHTaX_IN_A_RECTANGLE_BOXaKEYBOARDaLEFT-POINTING_ANGL
  E_BRACKETaRIGHT-POINTING_ANGLE_BRACKETaERASE_TO_THE_LEFTaBENZENE_RINGaCYLINDRICITYaALL_AROUND-PR
  OFILEaSYMMETRYaTOTAL_RUNOUTaDIMENSION_ORIGINaCONICAL_TAPERaSLOPEaCOUNTERBOREhSINKaAPL_FUNCTIONAL
  _SYMBOL_I-BEAMwSQUISH_QUADwQUAD_EQUAL$DIVIDE&AMOND$JOT$CIRCLEwCIRCLE_STILE&JOTwSLASH_BARwBACKSLA
  SH_BARwQUAD_SLASH$BACKSLASH$LESS-THAN$GREATER-THANwLEFTWARDS_VANEwRIGHTWARDS_VANEwQUAD_LEFTWARDS
  [$RIGHTWARDS[wCIRCLE_BACKSLASHwDOWN_TACK_UNDERBARxELTA_STILEwQUAD_DOWN_CARET%ELTAwDOWN_TACK_JOTw
  UPWARDS_VANEwQUAD_UPWARDS[wUP_TACK_OVERBARwDEL_STILEwQUAD_UP_CARET$DELwUP_TACK_JOTwDOWNWARDS_VAN
  EwQUAD_DOWNWARDS[yOTE_UNDERBARwDELTA_UNDERBARxIAMOND_UNDERBARwJOT_UNDERBARwCIRCLE_UNDERBARwUP_SH
  OE_JOTwQUOTE_QUADwCIRCLE_STARwQUAD_COLONwUP_TACK_DIAERESISwDEL_DIAERESISwSTAR_DIAERESISwJOT_DIAE
  RESISwCIRCLE_DIAERESISwDOWN_SHOE_STILEwLEFT_SHOE_STILEwTILDE_DIAERESISwGREATER-THAN_DIAERESISwCO
  MMA_BARwDEL_TILDEwZILDEwSTILE_TILDExEMICOLON_UNDERBARwQUAD_NOT_EQUAL$QUESTIONwDOWN_CARET_TILDEwU
  P_CARET_TILDEwIOTAwRHOwOMEGAwALPHA_UNDERBARwEPSILON_UNDERBARwIOTA_UNDERBARwOMEGA_UNDERBARwALPHAa
  NOT_CHECK_MARKaRIGHT_ANGLE@DOWNWARDS_ZIGZAG[aSHOULDERED_OPEN_BOXaBELL_SYMBOLaVERTICAL_LINE@MIDDL
  E_DOTaINSERTION_SYMBOLaCONTINUOUS_UNDERLINE_SYMBOLaDISCONTINUOUS_UNDERLINE_SYMBOLaEMPHASIS_SYMBO
  LaCOMPOSITION_SYMBOLaWHITE_SQUARE@CENTRE_VERTICAL_LINEaENTER_SYMBOLaALTERNATIVE_KEY_SYMBOLaHELM_
  SYMBOLaCIRCLED_HORIZONTAL_BAR@NOTCHiTRIANGLE_DOWNaBROKEN_CIRCLE@NORTHWEST[aUNDO_SYMBOLaMONOSTABL
  E_SYMBOLaHYSTERESIS_SYMBOLaOPEN-CIRCUIT-OUTPUT_H-TYPE_SYMBOLuL-TYPE_SYMBOLaPASSIVE-PULL-DOWN-OUT
  PUT_SYMBOLnUP-OUTPUT_SYMBOLaDIRECT_CURRENT_SYMBOL]_TWOaSOFTWARE-FUNCTION_SYMBOLaAPL_FUNCTIONAL_S
  YMBOL_QUADaDECIMAL_SEPARATOR_KEY_SYMBOLaPREVIOUS_PAGEaNEXT_PAGEaPRINT_SCREEN_SYMBOLaCLEAR_SCREEN
  _SYMBOLaLEFT_PARENTHESIS_UPPER_HOOKrEXTENSIONrLOWER_HOOKaRIGHT_PARENTHESIS_UPPER_HOOKsEXTENSIONs
  LOWER_HOOKaLEFT_SQUARE_BRACKET_UPPER_CORNERuEXTENSIONuLOWER_CORNERaRIGHT_SQUARE_BRACKET_UPPER_CO
  RNERvEXTENSIONvLOWER_CORNERaLEFT_CURLY_BRACKET_UPPER_HOOKtMIDDLE_PIECEtLOWER_HOOKaCURLY_BRACKET_
  EXTENSIONaRIGHT_CURLY_BRACKET_UPPER_HOOKuMIDDLE_PIECEuLOWER_HOOKaINTEGRAL_EXTENSIONaHORIZONTAL_L
  INE_EXTENSIONaUPPER_LEFT_OR_LOWER_RIGHT_CURLY_BRACKET_SECTIONgRIGHT_OR_LOWER_LEFT_CURLY_BRACKET_
  SECTIONaSUMMATION_TOPkBOTTOMaTOP_SQUARE_BRACKETaBOTTOM_SQUARE_BRACKETv_OVER_TOP_SQUARE_BRACKETaR
  ADICAL_SYMBOL_BOTTOMaLEFT_VERTICAL_BOX_LINEaRIGHT_VERTICAL_BOX_LINEaHORIZONTAL_SCAN_LINE-1v3v7v9
  aDENTISTRY_SYMBOL_LIGHT_VERTICAL/TOP_RIGHT>BOTTOM_RIGHT,WITH_CIRCLExDOWN/HORIZONTAL@CIRCLExUP/HO
  RIZONTAL@CIRCLExVERTICAL@TRIANGLExDOWN/HORIZONTAL@TRIANGLExUP/HORIZONTAL@TRIANGLExVERTICAL/WAVEx
  DOWN/HORIZONTAL@WAVExUP/HORIZONTAL@WAVExDOWN/HORIZONTALxUP/HORIZONTALxVERTICAL/TOP_LEFT>BOTTOM_L
  EFTaSQUARE_FOOTaRETURN_SYMBOLaEJECT_SYMBOLaVERTICAL_LINE_EXTENSIONaMETRICAL_BREVEjLONG_OVER_SHOR
  TjSHORT_OVER_LONGjLONG_OVER_TWO_SHORTSjTWO_SHORTS_OVER_LONGuJOINEDkRISEMEkETRASEMEjPENTASEMEaEAR
  TH_GROUNDaFUSEaTOP_PARENTHESISaBOTTOM_PARENTHESISaTOP_CURLY_BRACKETaBOTTOM_CURLY_BRACKETaTOP_TOR
  TOISE_SHELL_BRACKETaBOTTOM_TORTOISE_SHELL_BRACKETaWHITE_TRAPEZIUMaBENZENE_RING@CIRCLEaSTRAIGHTNE
  SSaFLATNESSaAC_CURRENTaELECTRICAL_INTERSECTIONaDECIMAL_EXPONENT_SYMBOLaBLACK_RIGHT-POINTING_DOUB
  LE_TRIANGLEgLEFT-POINTING_DOUBLE_TRIANGLEgUP-POINTING_DOUBLE_TRIANGLEgDOWN-POINTING_DOUBLE_TRIAN
  GLEgRIGHT-POINTING_DOUBLE_TRIANGLE@VERTICAL_BARgLEFT-POINTING_DOUBLE_TRIANGLE@VERTICAL_BARgRIGHT
  -POINTING_TRIANGLE@DOUBLE_VERTICAL_BARaALARM_CLOCKaSTOPWATCHaTIMER_CLOCKaHOURGLASS@FLOWING_SANDa
  BLACK_MEDIUM_LEFT-POINTING_TRIANGLEnRIGHT-POINTING_TRIANGLEnUP-POINTING_TRIANGLEnDOWN-POINTING_T
  RIANGLEaDOUBLE_VERTICAL_BARaBLACK_SQUARE_FOR_STOPgCIRCLE_FOR_RECORDaPOWER_SYMBOLgON-OFF_SYMBOLi_
  SYMBOLgSLEEP_SYMBOLaOBSERVER_EYE_SYMBOLaSYMBOL_FOR_NULLlSTART_OF_HEADINGuTEXTlEND_OF_TEXTtRANSMI
  SSIONnQUIRYlACKNOWLEDGElBELLmACKSPACElHORIZONTAL_TABULATIONlLINE_FEEDlVERTICAL_TABULATIONlFORM_F
  EEDlCARRIAGE_RETURNlSHIFT_OUTrINlDATA_LINK_ESCAPEmEVICE_CONTROL_ONE!TWO$HREE!FOURlNEGATIVE_ACKNO
  WLEDGElSYNCHRONOUS_IDLElEND_OF_TRANSMISSION_BLOCKlCANCELlEND_OF_MEDIUMlSUBSTITUTElESCAPElFILE_SE
  PARATORlGROUP_SEPARATORlRECORD_SEPARATORlUNIT_SEPARATORlSPACElDELETEaBLANK_SYMBOLaOPEN_BOXaSYMBO
  L_FOR_NEWLINElDELETE]_TWOlSUBSTITUTE]_TWO=2440aOCR_HOOKeCHAIReFORKeINVERTED_FORKeBELT_BUCKLEfOW_
  TIEfRANCH_BANK_IDENTIFICATIONeAMOUNT_OF_CHECKeDASHeCUSTOMER_ACCOUNT_NUMBEReDOUBLE_BACKSLASH=2460
  aCIRCLED_DIGIT_ONEoTWOpHREEoFOURpIVEoSIXpEVENoEIGHToNINEiNUMBER_TENpELEVENpTWELVEqHIRTEENpFOURTE
  ENqIFTEENpSIXTEENqEVENTEENpEIGHTEENpNINETEENpTWENTYaPARENTHESIZED_DIGIT_ONEuTWOvHREEuFOURvIVEuSI
  XvEVENuEIGHTuNINEoNUMBER_TENvELEVENvTWELVEwHIRTEENvFOURTEENwIFTEENvSIXTEENwEVENTEENvEIGHTEENvNIN
  ETEENvTWENTYaDIGIT_ONE_FULL_STOPgTWO_FULL_STOPhHREE_FULL_STOPgFOUR_FULL_STOPhIVE_FULL_STOPgSIX_F
  ULL_STOPhEVEN_FULL_STOPgEIGHT_FULL_STOPgNINE_FULL_STOPaNUMBER_TEN_FULL_STOPhELEVEN_FULL_STOPhTWE
  LVE_FULL_STOPiHIRTEEN_FULL_STOPhFOURTEEN_FULL_STOPiIFTEEN_FULL_STOPhSIXTEEN_FULL_STOPiEVENTEEN_F
  ULL_STOPhEIGHTEEN_FULL_STOPhNINETEEN_FULL_STOPhTWENTY_FULL_STOPaPARENTHESIZED_LATIN_):A.B.C.D.E.
  F.G.H.I.J.K.L.M.N.O.P.Q.R.S.T.U.V.W.X.Y.ZaCIRCLED_LATIN_(:A&B&C&D&E&F&G&H&I&J&K&L&M&N&O&P&Q&R&S&
  T&U&V&W&X&Y&Zo):A$B$C$D$E$F$G$H$I$J$K$L$M$N$O$P$Q$R$S$T$U$V$W$X$Y$ZiDIGIT_ZEROaNEGATIVE_CIRCLED_
  NUMBER_ELEVENyTWELVEzHIRTEENyFOURTEENzIFTEENySIXTEENzEVENTEENyEIGHTEENyNINETEENyTWENTYaDOUBLE_CI
  RCLED_DIGIT_ONEvTWOwHREEvFOURwIVEvSIXwEVENvEIGHTvNINEpNUMBER_TENaNEGATIVE_CIRCLED_DIGIT_ZEROaBOX
  _DRAWINGS_LIGHT_HORIZONTALnHEAVY_HORIZONTALnLIGHT_VERTICALnHEAVY_VERTICALnLIGHT_TRIPLE_DASH_HORI
  ZONTALnHEAVY_TRIPLE_DASH_HORIZONTALnLIGHT_TRIPLE_DASH_VERTICALnHEAVY_TRIPLE_DASH_VERTICALnLIGHT_
  QUADRUPLE_DASH_HORIZONTALnHEAVY_QUADRUPLE_DASH_HORIZONTALnLIGHT_QUADRUPLE_DASH_VERTICALnHEAVY_QU
  ADRUPLE_DASH_VERTICALnLIGHT_DOWN/RIGHTnDOWN_LIGHT/RIGHT_HEAVYsHEAVY/RIGHT_LIGHTnHEAVY_DOWN/RIGHT
  nLIGHT_DOWN/LEFTnDOWN_LIGHT/LEFT_HEAVYsHEAVY/LEFT_LIGHTnHEAVY_DOWN/LEFTnLIGHT_UP/RIGHTnUP_LIGHT/
  RIGHT_HEAVYqHEAVY/RIGHT_LIGHTnHEAVY_UP/RIGHTnLIGHT_UP/LEFTnUP_LIGHT/LEFT_HEAVYqHEAVY/LEFT_LIGHTn
  HEAVY_UP/LEFTnLIGHT_VERTICAL/RIGHTnVERTICAL_LIGHT/RIGHT_HEAVYnUP_HEAVY/RIGHT_DOWN_LIGHTnDOWN_HEA
  VY/RIGHT_UP_LIGHTnVERTICAL_HEAVY/RIGHT_LIGHTnDOWN_LIGHT/RIGHT_UP_HEAVYnUP_LIGHT/RIGHT_DOWN_HEAVY
  nHEAVY_VERTICAL/RIGHTnLIGHT_VERTICAL/LEFTnVERTICAL_LIGHT/LEFT_HEAVYnUP_HEAVY/LEFT_DOWN_LIGHTnDOW
  N_HEAVY/LEFT_UP_LIGHTnVERTICAL_HEAVY/LEFT_LIGHTnDOWN_LIGHT/LEFT_UP_HEAVYnUP_LIGHT/LEFT_DOWN_HEAV
  YnHEAVY_VERTICAL/LEFTnLIGHT_DOWN/HORIZONTALoEFT_HEAVY/RIGHT_DOWN_LIGHTnRIGHT_HEAVY/LEFT_DOWN_LIG
  HTnDOWN_LIGHT/HORIZONTAL_HEAVYsHEAVY/HORIZONTAL_LIGHTnRIGHT_LIGHT/LEFT_DOWN_HEAVYnLEFT_LIGHT/RIG
  HT_DOWN_HEAVYnHEAVY_DOWN/HORIZONTALnLIGHT_UP/HORIZONTALoEFT_HEAVY/RIGHT_UP_LIGHTnRIGHT_HEAVY/LEF
  T_UP_LIGHTnUP_LIGHT/HORIZONTAL_HEAVYqHEAVY/HORIZONTAL_LIGHTnRIGHT_LIGHT/LEFT_UP_HEAVYnLEFT_LIGHT
  /RIGHT_UP_HEAVYnHEAVY_UP/HORIZONTALnLIGHT_VERTICAL/HORIZONTALoEFT_HEAVY/RIGHT_VERTICAL_LIGHTnRIG
  HT_HEAVY/LEFT_VERTICAL_LIGHTnVERTICAL_LIGHT/HORIZONTAL_HEAVYnUP_HEAVY/DOWN_HORIZONTAL_LIGHTnDOWN
  _HEAVY/UP_HORIZONTAL_LIGHTnVERTICAL_HEAVY/HORIZONTAL_LIGHTnLEFT_UP_HEAVY/RIGHT_DOWN_LIGHTnRIGHT_
  UP_HEAVY/LEFT_DOWN_LIGHTnLEFT_DOWN_HEAVY/RIGHT_UP_LIGHTnRIGHT_DOWN_HEAVY/LEFT_UP_LIGHTnDOWN_LIGH
  T/UP_HORIZONTAL_HEAVYnUP_LIGHT/DOWN_HORIZONTAL_HEAVYnRIGHT_LIGHT/LEFT_VERTICAL_HEAVYnLEFT_LIGHT/
  RIGHT_VERTICAL_HEAVYnHEAVY_VERTICAL/HORIZONTALnLIGHT_DOUBLE_DASH_HORIZONTALnHEAVY_DOUBLE_DASH_HO
  RIZONTALnLIGHT_DOUBLE_DASH_VERTICALnHEAVY_DOUBLE_DASH_VERTICALnDOUBLE_HORIZONTALuVERTICALpWN_SIN
  GLE/RIGHT_DOUBLEsDOUBLE/RIGHT_SINGLEpUBLE_DOWN/RIGHTpWN_SINGLE/LEFT_DOUBLEsDOUBLE/LEFT_SINGLEpUB
  LE_DOWN/LEFTnUP_SINGLE/RIGHT_DOUBLEqDOUBLE/RIGHT_SINGLEnDOUBLE_UP/RIGHTnUP_SINGLE/LEFT_DOUBLEqDO
  UBLE/LEFT_SINGLEnDOUBLE_UP/LEFTnVERTICAL_SINGLE/RIGHT_DOUBLEwDOUBLE/RIGHT_SINGLEnDOUBLE_VERTICAL
  /RIGHTnVERTICAL_SINGLE/LEFT_DOUBLEwDOUBLE/LEFT_SINGLEnDOUBLE_VERTICAL/LEFTpWN_SINGLE/HORIZONTAL_
  DOUBLEsDOUBLE/HORIZONTAL_SINGLEpUBLE_DOWN/HORIZONTALnUP_SINGLE/HORIZONTAL_DOUBLEqDOUBLE/HORIZONT
  AL_SINGLEnDOUBLE_UP/HORIZONTALnVERTICAL_SINGLE/HORIZONTAL_DOUBLEwDOUBLE/HORIZONTAL_SINGLEnDOUBLE
  _VERTICAL/HORIZONTALnLIGHT_ARC_DOWN/RIGHT,LEFTxUP/LEFT*RIGHTtDIAGONAL_UPPER_RIGHT_TO_LOWER_LEFT;
  LEFT_TO_LOWER_RIGHT%CROSStLEFTtUPtRIGHTtDOWNnHEAVY_LEFTtUPtRIGHTtDOWNnLIGHT_LEFT/HEAVY_RIGHTtUP/
  HEAVY_DOWNnHEAVY_LEFT/LIGHT_RIGHTtUP/LIGHT_DOWNaUPPER_HALF_BLOCKaLOWER_ONE_EIGHTH_BLOCKkQUARTER_
  BLOCKgTHREE_EIGHTHS_BLOCKgHALF_BLOCKgFIVE_EIGHTHS_BLOCKgTHREE_QUARTERS_BLOCKgSEVEN_EIGHTHS_BLOCK
  aFULL_BLOCKaLEFT_SEVEN_EIGHTHS_BLOCKfTHREE_QUARTERS_BLOCKfFIVE_EIGHTHS_BLOCKfHALF_BLOCKfTHREE_EI
  GHTHS_BLOCKfONE_QUARTER_BLOCKjEIGHTH_BLOCKaRIGHT_HALF_BLOCKaLIGHT_SHADEaMEDIUM_SHADEaDARK_SHADEa
  UPPER_ONE_EIGHTH_BLOCKaRIGHT_ONE_EIGHTH_BLOCKaQUADRANT_LOWER_LEFTpRIGHTjUPPER_LEFTt/LOWER_LEFT/L
  OWER_RIGHT*RIGHTyUPPER_RIGHT/LOWER_LEFT~LOWER_RIGHTpRIGHTu/LOWER_LEFT</LOWER_RIGHTaBLACK_SQUAREa
  WHITE_SQUAREm@ROUNDED_CORNERSnCONTAINING_BLACK_)_SQUAREaSQUARE@HORIZONTAL_FILLmVERTICAL_FILLmORT
  HOGONAL_CROSSHATCH_FILLmUPPER_LEFT_TO_LOWER_RIGHT_FILLsRIGHT_TO_LOWER_LEFT_FILLmDIAGONAL_CROSSHA
  TCH_FILLaBLACK_)_SQUAREaWHITE_)_SQUAREaBLACK_RECTANGLEaWHITE_RECTANGLEaBLACK_VERTICAL_RECTANGLEa
  WHITE_VERTICAL_RECTANGLEaBLACK_PARALLELOGRAMaWHITE_PARALLELOGRAMaBLACK_UP-POINTING_TRIANGLEaWHIT
  E_UP-POINTING_TRIANGLEaBLACK_UP-POINTING_)_TRIANGLEaWHITE_UP-POINTING_)_TRIANGLEaBLACK_RIGHT-POI
  NTING_TRIANGLEaWHITE_RIGHT-POINTING_TRIANGLEaBLACK_RIGHT-POINTING_)_TRIANGLEaWHITE_RIGHT-POINTIN
  G_)_TRIANGLEaBLACK_RIGHT-POINTING_POINTERaWHITE_RIGHT-POINTING_POINTERaBLACK_DOWN-POINTING_TRIAN
  GLEaWHITE_DOWN-POINTING_TRIANGLEaBLACK_DOWN-POINTING_)_TRIANGLEaWHITE_DOWN-POINTING_)_TRIANGLEaB
  LACK_LEFT-POINTING_TRIANGLEaWHITE_LEFT-POINTING_TRIANGLEaBLACK_LEFT-POINTING_)_TRIANGLEaWHITE_LE
  FT-POINTING_)_TRIANGLEaBLACK_LEFT-POINTING_POINTERaWHITE_LEFT-POINTING_POINTERaBLACK_DIAMONDaWHI
  TE_DIAMONDn_CONTAINING_BLACK_)_DIAMONDaFISHEYEaLOZENGEaWHITE_CIRCLEaDOTTED_CIRCLEaCIRCLE@VERTICA
  L_FILLaBULLSEYEbLACK_CIRCLEaCIRCLE@LEFT_HALF_BLACKmRIGHT_HALF_BLACKmLOWER_HALF_BLACKmUPPER_HALF_
  BLACKsRIGHT_QUADRANT_BLACKmALL_BUT_UPPER_LEFT_QUADRANT_BLACKaLEFT_HALF_BLACK_CIRCLEaRIGHT_HALF_B
  LACK_CIRCLEaINVERSE_BULLETiWHITE_CIRCLEaUPPER_HALF_INVERSE_WHITE_CIRCLEaLOWER_HALF_INVERSE_WHITE
  _CIRCLEaUPPER_LEFT_QUADRANT_CIRCULAR_ARCgRIGHT_QUADRANT_CIRCULAR_ARCaLOWER_RIGHT_QUADRANT_CIRCUL
  AR_ARCgLEFT_QUADRANT_CIRCULAR_ARCaUPPER_HALF_CIRCLEaLOWER_HALF_CIRCLEaBLACK_LOWER_RIGHT_TRIANGLE
  mLEFT_TRIANGLEgUPPER_LEFT_TRIANGLEmRIGHT_TRIANGLEaWHITE_BULLETaSQUARE@LEFT_HALF_BLACKmRIGHT_HALF
  _BLACKmUPPER_LEFT_DIAGONAL_HALF_BLACKmLOWER_RIGHT_DIAGONAL_HALF_BLACKaWHITE_SQUARE@VERTICAL_BISE
  CTING_LINEgUP-POINTING_TRIANGLE@DOTaUP-POINTING_TRIANGLE@LEFT_HALF_BLACK!RIGHT_HALF_BLACKaLARGE_
  CIRCLEaWHITE_SQUARE@UPPER_LEFT_QUADRANTsLOWER_LEFT_QUADRANTyRIGHT_QUADRANTsUPPER_RIGHT_QUADRANTg
  CIRCLE@UPPER_LEFT_QUADRANTsLOWER_LEFT_QUADRANTyRIGHT_QUADRANTsUPPER_RIGHT_QUADRANTaUPPER_LEFT_TR
  IANGLEgRIGHT_TRIANGLEaLOWER_LEFT_TRIANGLEaWHITE_MEDIUM_SQUAREaBLACK_MEDIUM_SQUAREaWHITE_MEDIUM_)
  _SQUAREaBLACK_MEDIUM_)_SQUAREaLOWER_RIGHT_TRIANGLEaBLACK_SUN@RAYSaCLOUDaUMBRELLAaSNOWMANaCOMETaB
  LACK_STARaWHITE_STARaLIGHTNINGaTHUNDERSTORMaSUNaASCENDING_NODEaDESCENDING_NODEaCONJUNCTIONaOPPOS
  ITIONaBLACK_TELEPHONEaWHITE_TELEPHONEaBALLOT_BOXk@CHECKqXaSALTIREaUMBRELLA@RAIN_DROPSaHOT_BEVERA
  GEaWHITE_SHOGI_PIECEaBLACK_SHOGI_PIECEaSHAMROCKaREVERSED_ROTATED_FLORAL_HEART_BULLETaBLACK_LEFT_
  POINTING_INDEXgRIGHT_POINTING_INDEXaWHITE_LEFT_POINTING_INDEXgUP_POINTING_INDEXgRIGHT_POINTING_I
  NDEXgDOWN_POINTING_INDEXaSKULL/CROSSBONESaCAUTION_SIGNaRADIOACTIVE_SIGNaBIOHAZARD_SIGNaCADUCEUSa
  ANKHaORTHODOX_CROSSaCHI_RHObROSS_OF_LORRAINEjJERUSALEMaSTAR/CRESCENTaFARSI_SYMBOLaADI_SHAKTIaHAM
  MER/SICKLEaPEACE_SYMBOLaYIN_YANGaTRIGRAM_FOR_HEAVENmLAKEmFIREmTHUNDERmWINDnATERmMOUNTAINmEARTHaW
  HEEL_OF_DHARMAcITE_FROWNING_FACEgSMILING_FACEaBLACK_SMILING_FACEaWHITE_SUN@RAYSaFIRST_QUARTER_MO
  ONaLAST_QUARTER_MOONaMERCURYaFEMALE_SIGNaEARTHaMALE_SIGNaJUPITERaSATURNaURANUSaNEPTUNEaPLUTOaARI
  ESaTAURUSaGEMINIaCANCERaLEOaVIRGOaLIBRAaSCORPIUSbAGITTARIUSaCAPRICORNaAQUARIUSaPISCESaWHITE_CHES
  S_KINGmQUEENmROOKmBISHOPmKNIGHTmPAWNaBLACK_CHESS_KINGmQUEENmROOKmBISHOPmKNIGHTmPAWNgSPADE_SUITaW
  HITE_HEART_SUITgDIAMOND_SUITaBLACK_CLUB_SUITaWHITE_SPADE_SUITaBLACK_HEART_SUITgDIAMOND_SUITaWHIT
  E_CLUB_SUITaHOT_SPRINGSaQUARTER_NOTEaEIGHTH_NOTEaBEAMED_EIGHTH_NOTEShSIXTEENTH_NOTESaMUSIC_FLAT_
  SIGNgNATURAL_SIGNgSHARP_SIGNaWEST_SYRIAC_CROSSaEAST_SYRIAC_CROSSaUNIVERSAL_RECYCLING_SYMBOLaRECY
  CLING_SYMBOL_FOR_TYPE-1_PLASTICS!2_PLASTICS!3_PLASTICS!4_PLASTICS!5_PLASTICS!6_PLASTICS!7_PLASTI
  CSvGENERIC_MATERIALSaBLACK_UNIVERSAL_RECYCLING_SYMBOLaRECYCLED_PAPER_SYMBOLaPARTIALLY-RECYCLED_P
  APER_SYMBOLbERMANENT_PAPER_SIGNaWHEELCHAIR_SYMBOLaDIE_FACE-1j2j3j4j5j6aWHITE_CIRCLE@DOT_RIGHTsTW
  O_DOTSaBLACK_CIRCLE@WHITE_DOT_RIGHTsTWO_WHITE_DOTSaMONOGRAM_FOR_YANGoINaDIGRAM_FOR_GREATER_YANGl
  LESSER_YINtANGlGREATER_YINaWHITE_FLAGaBLACK_FLAGaHAMMER/PICKaANCHORaCROSSED_SWORDSaSTAFF_OF_AESC
  ULAPIUSbCALESaALEMBICaFLOWERaGEARaSTAFF_OF_HERMESaATOM_SYMBOLaFLEUR-DE-LISaOUTLINED_WHITE_STARaT
  HREE_LINES_CONVERGING_RIGHTxLEFTaWARNING_SIGNaHIGH_VOLTAGE_SIGNaDOUBLED_FEMALE_SIGNiMALE_SIGNaIN
  TERLOCKED_FEMALE/MALE_SIGNaMALE/FEMALE_SIGNfWITH_STROKE_SIGNrAND_MALE/FEMALE_SIGNaVERTICAL_MALE@
  STROKE_SIGNaHORIZONTAL_MALE@STROKE_SIGNaMEDIUM_WHITE_CIRCLEhBLACK_CIRCLEh)_WHITE_CIRCLEbARRIAGE_
  SYMBOLaDIVORCE_SYMBOLaUNMARRIED_PARTNERSHIP_SYMBOLaCOFFINaFUNERAL_URNaNEUTERaCERESaPALLASaJUNOaV
  ESTAaCHIRONaBLACK_MOON_LILITHaSEXTILEcMISEXTILEaQUINCUNXaSESQUIQUADRATEbOCCER_BALLaBASEBALLaSQUA
  RED_KEYaWHITE_DRAUGHTS_MANpKINGaBLACK_DRAUGHTS_MANpKINGaSNOWMAN_WITHOUT_SNOWbUN_BEHIND_CLOUDaRAI
  NaBLACK_SNOWMANaTHUNDER_CLOUD/RAINbURNED_WHITE_SHOGI_PIECEhBLACK_SHOGI_PIECEaWHITE_DIAMOND_IN_SQ
  UAREaCROSSING_LANESaDISABLED_CARaOPHIUCHUSaPICKaCAR_SLIDINGaHELMET@WHITE_CROSSaCIRCLED_CROSSING_
  LANESbHAINSaNO_ENTRYaALTERNATE_ONE-WAY_LEFT_WAY_TRAFFICaBLACK_TWO-WAY_LEFT_WAY_TRAFFICaWHITE_TWO
  -WAY_LEFT_WAY_TRAFFICaBLACK_LEFT_LANE_MERGEaWHITE_LEFT_LANE_MERGEaDRIVE_SLOW_SIGNaHEAVY_WHITE_DO
  WN-POINTING_TRIANGLEaLEFT_CLOSED_ENTRYaSQUARED_SALTIREaFALLING_DIAGONAL_IN_WHITE_CIRCLE_IN_BLACK
  _SQUAREaBLACK_TRUCKaRESTRICTED_LEFT_ENTRY-1w2aASTRONOMICAL_SYMBOL_FOR_URANUSaHEAVY_CIRCLE@STROKE
  /TWO_DOTS_ABOVEaPENTAGRAMaRIGHT-HANDED_INTERLACED_PENTAGRAMaLEFT-HANDED_INTERLACED_PENTAGRAMaINV
  ERTED_PENTAGRAMaBLACK_CROSS_ON_SHIELDaSHINTO_SHRINEaCHURCHbASTLEaHISTORIC_SITEaGEAR_WITHOUT_HUBj
  _HANDLESaMAP_SYMBOL_FOR_LIGHTHOUSEbOUNTAINaUMBRELLA_ON_GROUNDaFOUNTAINbLAG_IN_HOLEbERRYaSAILBOAT
  bQUARE_FOUR_CORNERSbKIERaICE_SKATEaPERSON@BALLaTENTaJAPANESE_BANK_SYMBOLaHEADSTONE_GRAVEYARD_SYM
  BOLaFUEL_PUMPaCUP_ON_BLACK_SQUAREaWHITE_FLAG@HORIZONTAL_MIDDLE_BLACK_STRIPEaBLACK_SAFETY_SCISSOR
  SaUPPER_BLADE_SCISSORSaBLACK_SCISSORSaLOWER_BLADE_SCISSORSaWHITE_SCISSORSgHEAVY_CHECK_MARKaTELEP
  HONE_LOCATION_SIGNbAPE_DRIVEaAIRPLANEaENVELOPEaRAISED_FISThHANDaVICTORY_HANDaWRITING_HANDaLOWER_
  RIGHT_PENCILaPENCILaUPPER_RIGHT_PENCILaWHITE_NIBaBLACK_NIBaCHECK_MARKaHEAVY_CHECK_MARKaMULTIPLIC
  ATION_XaHEAVY_MULTIPLICATION_XaBALLOT_XaHEAVY_BALLOT_XaOUTLINED_GREEK_CROSSaHEAVY_GREEK_CROSSaOP
  EN_CENTRE_CROSSaHEAVY_OPEN_CENTRE_CROSSaLATIN_CROSSaSHADOWED_WHITE_LATIN_CROSSaOUTLINED_LATIN_CR
  OSSaMALTESE_CROSSaSTAR_OF_DAVIDaFOUR_TEARDROP-SPOKED_ASTERISKfBALLOON-SPOKED_ASTERISKaHEAVY_FOUR
  _BALLOON-SPOKED_ASTERISKaFOUR_CLUB-SPOKED_ASTERISKaBLACK_FOUR_POINTED_STARaWHITE_FOUR_POINTED_ST
  ARaSPARKLESbTRESS_OUTLINED_WHITE_STARaCIRCLED_WHITE_STARaOPEN_CENTRE_BLACK_STARaBLACK_CENTRE_WHI
  TE_STARaOUTLINED_BLACK_STARaHEAVY_OUTLINED_BLACK_STARaPINWHEEL_STARaSHADOWED_WHITE_STARaHEAVY_AS
  TERISKaOPEN_CENTRE_ASTERISKaEIGHT_SPOKED_ASTERISKgPOINTED_BLACK_STARoPINWHEEL_STARaSIX_POINTED_B
  LACK_STARaEIGHT_POINTED_RECTILINEAR_BLACK_STARaHEAVY_EIGHT_POINTED_RECTILINEAR_BLACK_STARaTWELVE
  _POINTED_BLACK_STARaSIXTEEN_POINTED_ASTERISKaTEARDROP-SPOKED_ASTERISKaOPEN_CENTRE_TEARDROP-SPOKE
  D_ASTERISKaHEAVY_TEARDROP-SPOKED_ASTERISKaSIX_PETALLED_BLACK/WHITE_FLORETTEaBLACK_FLORETTEaWHITE
  _FLORETTEaEIGHT_PETALLED_OUTLINED_BLACK_FLORETTEaCIRCLED_OPEN_CENTRE_EIGHT_POINTED_STARaHEAVY_TE
  ARDROP-SPOKED_PINWHEEL_ASTERISKaSNOWFLAKEaTIGHT_TRIFOLIATE_SNOWFLAKEaHEAVY_CHEVRON_SNOWFLAKEaSPA
  RKLEaHEAVY_SPARKLEaBALLOON-SPOKED_ASTERISKaEIGHT_TEARDROP-SPOKED_PROPELLER_ASTERISKaHEAVY_EIGHT_
  TEARDROP-SPOKED_PROPELLER_ASTERISKaCROSS_MARKaSHADOWED_WHITE_CIRCLEaNEGATIVE_SQUARED_CROSS_MARKa
  LOWER_RIGHT_DROP-SHADOWED_WHITE_SQUAREaUPPER_RIGHT_DROP-SHADOWED_WHITE_SQUAREaLOWER_RIGHT_SHADOW
  ED_WHITE_SQUAREaUPPER_RIGHT_SHADOWED_WHITE_SQUAREaBLACK_QUESTION_MARK_ORNAMENTaWHITE_QUESTION_MA
  RK_ORNAMENTgEXCLAMATION_MARK_ORNAMENTaBLACK_DIAMOND_MINUS_WHITE_XaHEAVY_EXCLAMATION_MARK_SYMBOLa
  LIGHT_VERTICAL_BARaMEDIUM_VERTICAL_BARaHEAVY_VERTICAL_BARgSINGLE_TURNED_COMMA_QUOTATION_MARK_ORN
  AMENTnCOMMA_QUOTATION_MARK_ORNAMENTgDOUBLE_TURNED_COMMA_QUOTATION_MARK_ORNAMENTnCOMMA_QUOTATION_
  MARK_ORNAMENTgLOW_SINGLE_COMMA_QUOTATION_MARK_ORNAMENTkDOUBLE_COMMA_QUOTATION_MARK_ORNAMENTaCURV
  ED_STEM_PARAGRAPH_SIGN_ORNAMENTaHEAVY_EXCLAMATION_MARK_ORNAMENTgHEART_EXCLAMATION_MARK_ORNAMENTg
  BLACK_HEARTaROTATED_HEAVY_BLACK_HEART_BULLETaFLORAL_HEARTaROTATED_FLORAL_HEART_BULLETaMEDIUM_LEF
  T_PARENTHESIS_ORNAMENThRIGHT_PARENTHESIS_ORNAMENThFLATTENED_LEFT_PARENTHESIS_ORNAMENTrRIGHT_PARE
  NTHESIS_ORNAMENThLEFT-POINTING_ANGLE_BRACKET_ORNAMENThRIGHT-POINTING_ANGLE_BRACKET_ORNAMENTaHEAV
  Y_LEFT-POINTING_ANGLE_QUOTATION_MARK_ORNAMENTgRIGHT-POINTING_ANGLE_QUOTATION_MARK_ORNAMENTgLEFT-
  POINTING_ANGLE_BRACKET_ORNAMENTgRIGHT-POINTING_ANGLE_BRACKET_ORNAMENTaLIGHT_LEFT_TORTOISE_SHELL_
  BRACKET_ORNAMENTgRIGHT_TORTOISE_SHELL_BRACKET_ORNAMENTaMEDIUM_LEFT_CURLY_BRACKET_ORNAMENThRIGHT_
  CURLY_BRACKET_ORNAMENTaDINGBAT_NEGATIVE_CIRCLED_DIGIT_ONE+TWO,HREE+FOUR,IVE+SIX,EVEN+EIGHT+NINEz
  NUMBER_TENiCIRCLED_SANS-SERIF_DIGIT_ONE.TWO;HREE.FOUR;IVE.SIX;EVEN.EIGHT.NINE$NUMBER_TENiNEGATIV
  E_CIRCLED_SANS-SERIF_DIGIT_ONE~T_TWO~T_THREE~T_FOUR~T_FIVE~T_SIX~T_SEVEN~T_EIGHT~T_NINE>NUMBER_T
  ENaHEAVY_WIDE-HEADED_RIGHTWARDS[gPLUS_SIGNgMINUS_SIGNgDIVISION_SIGNgSOUTH_EAST[gRIGHTWARDS[gNORT
  H_EAST[aDRAFTING_POINT_RIGHTWARDS[aHEAVY_ROUND-TIPPED_RIGHTWARDS[aTRIANGLE-HEADED_RIGHTWARDS[aHE
  AVY_TRIANGLE-HEADED_RIGHTWARDS[aDASHED_TRIANGLE-HEADED_RIGHTWARDS[aHEAVY_DASHED_TRIANGLE-HEADED_
  RIGHTWARDS[aBLACK_RIGHTWARDS[aTHREE-D_TOP-LIGHTED_RIGHTWARDS[HEADiBOTTOM-LIGHTED_RIGHTWARDS[HEAD
  aBLACK_RIGHTWARDS[HEADaHEAVY_BLACK_CURVED_DOWNWARDS/RIGHTWARDS[tUPWARDS/RIGHTWARDS[aSQUAT_BLACK_
  RIGHTWARDS[aHEAVY_CONCAVE-POINTED_BLACK_RIGHTWARDS[aRIGHT-SHADED_WHITE_RIGHTWARDS[aLEFT-SHADED_W
  HITE_RIGHTWARDS[aBACK-TILTED_SHADOWED_WHITE_RIGHTWARDS[aFRONT-TILTED_SHADOWED_WHITE_RIGHTWARDS[a
  HEAVY_LOWER_RIGHT-SHADOWED_WHITE_RIGHTWARDS[gUPPER_RIGHT-SHADOWED_WHITE_RIGHTWARDS[aNOTCHED_LOWE
  R_RIGHT-SHADOWED_WHITE_RIGHTWARDS[aCURLY_LOOPaNOTCHED_UPPER_RIGHT-SHADOWED_WHITE_RIGHTWARDS[aCIR
  CLED_HEAVY_WHITE_RIGHTWARDS[aWHITE-FEATHERED_RIGHTWARDS[aBLACK-FEATHERED_SOUTH_EAST[qRIGHTWARDS[
  qNORTH_EAST[aHEAVY_BLACK-FEATHERED_SOUTH_EAST[wRIGHTWARDS[wNORTH_EAST[aTEARDROP-BARBED_RIGHTWARD
  S[aHEAVY_TEARDROP-SHANKED_RIGHTWARDS[aWEDGE-TAILED_RIGHTWARDS[aHEAVY_WEDGE-TAILED_RIGHTWARDS[aOP
  EN-OUTLINED_RIGHTWARDS[aDOUBLE_CURLY_LOOPaTHREE_DIMENSIONAL_ANGLEaWHITE_TRIANGLE_CONTAINING_)_WH
  ITE_TRIANGLEaPERPENDICULARaOPEN_SUBSEThPERSETaLEFT_S-SHAPED_BAG_DELIMITERaRIGHT_S-SHAPED_BAG_DEL
  IMITERaOR@DOT_INSIDEaREVERSE_SOLIDUS_PRECEDING_SUBSETaSUPERSET_PRECEDING_SOLIDUSaVERTICAL_BAR@HO
  RIZONTAL_STROKEaMATHEMATICAL_RISING_DIAGONALaLONG_DIVISIONaMATHEMATICAL_FALLING_DIAGONALaSQUARED
  _LOGICAL_ANDqORaWHITE_DIAMOND@CENTRED_DOTaAND@DOTaELEMENT_OF_OPENING_UPWARDSaLOWER_RIGHT_CORNER@
  DOTaUPPER_LEFT_CORNER@DOTaLEFT_OUTER_JOINaRIGHT_OUTER_JOINaFULL_OUTER_JOINaLARGE_UP_TACKgDOWN_TA
  CKbEFT/RIGHT_DOUBLE_TURNSTILEpTACKfMULTIMAPbONG_RIGHT_TACKfLEFT_TACKaUP_TACK@CIRCLE_ABOVEaLOZENG
  E_DIVIDED_BY_HORIZONTAL_RULEaWHITE_CONCAVE-SIDED_DIAMOND$@LEFTWARDS_TICK.RIGHTWARDS_TICKgSQUARE@
  LEFTWARDS_TICKsRIGHTWARDS_TICKaMATHEMATICAL_LEFT_WHITE_SQUARE_BRACKETnRIGHT_WHITE_SQUARE_BRACKET
  nLEFT_ANGLE_BRACKETnRIGHT_ANGLE_BRACKETnLEFT_DOUBLE_ANGLE_BRACKETnRIGHT_DOUBLE_ANGLE_BRACKETnLEF
  T_WHITE_TORTOISE_SHELL_BRACKETnRIGHT_WHITE_TORTOISE_SHELL_BRACKETnLEFT_FLATTENED_PARENTHESISnRIG
  HT_FLATTENED_PARENTHESISaUPWARDS_QUADRUPLE[aDOWNWARDS_QUADRUPLE[aANTICLOCKWISE_GAPPED_CIRCLE[aCL
  OCKWISE_GAPPED_CIRCLE[aRIGHT[@CIRCLED_PLUSaLONG_LEFTWARDS[fRIGHTWARDS[fLEFT_RIGHT[jWARDS_DOUBLE[
  fRIGHTWARDS_DOUBLE[fLEFT_RIGHT_DOUBLE[jWARDS[_FROM_BARfRIGHTWARDS[_FROM_BARfLEFTWARDS_DOUBLE[_FR
  OM_BARfRIGHTWARDS_DOUBLE[_FROM_BARqSQUIGGLE[aBRAILLE_PATTERN_BLANKqDOTS-1v2v12v3v13v23v123v4v14v
  24v124v34v134v234v1234v5v15v25v125v35v135v235v1235v45v145v245v1245v345v1345v2345v12345v6v16v26v1
  26v36v136v236v1236v46v146v246v1246v346v1346v2346v12346v56v156v256v1256v356v1356v2356v12356v456v1
  456v2456v12456v3456v13456v23456v123456v7v17v27v127v37v137v237v1237v47v147v247v1247v347v1347v2347
  v12347v57v157v257v1257v357v1357v2357v12357v457v1457v2457v12457v3457v13457v23457v123457v67v167v26
  7v1267v367v1367v2367v12367v467v1467v2467v12467v3467v13467v23467v123467v567v1567v2567v12567v3567v
  13567v23567v123567v4567v14567v24567v124567v34567v134567v234567v1234567v8v18v28v128v38v138v238v12
  38v48v148v248v1248v348v1348v2348v12348v58v158v258v1258v358v1358v2358v12358v458v1458v2458v12458v3
  458v13458v23458v123458v68v168v268v1268v368v1368v2368v12368v468v1468v2468v12468v3468v13468v23468v
  123468v568v1568v2568v12568v3568v13568v23568v123568v4568v14568v24568v124568v34568v134568v234568v1
  234568v78v178v278v1278v378v1378v2378v12378v478v1478v2478v12478v3478v13478v23478v123478v578v1578v
  2578v12578v3578v13578v23578v123578v4578v14578v24578v124578v34578v134578v234578v1234578v678v1678v
  2678v12678v3678v13678v23678v123678v4678v14678v24678v124678v34678v134678v234678v1234678v5678v1567
  8v25678v125678v35678v135678v235678v1235678v45678v145678v245678v1245678v345678v1345678v2345678v12
  345678aRIGHTWARDS_TWO-HEADED[@VERTICAL_STROKE.DOUBLE_VERTICAL_STROKEaLEFTWARDS_DOUBLE[@VERTICAL_
  STROKEaRIGHTWARDS_DOUBLE[@VERTICAL_STROKEaLEFT_RIGHT_DOUBLE[@VERTICAL_STROKEaRIGHTWARDS_TWO-HEAD
  ED[_FROM_BARaLEFTWARDS_DOUBLE[_FROM_BARaRIGHTWARDS_DOUBLE[_FROM_BARaDOWNWARDS[@HORIZONTAL_STROKE
  aUPWARDS[@HORIZONTAL_STROKEiTRIPLE[aDOWNWARDS_TRIPLE[aLEFTWARDS_DOUBLE_DASH[aRIGHTWARDS_DOUBLE_D
  ASH[aLEFTWARDS_TRIPLE_DASH[aRIGHTWARDS_TRIPLE_DASH[mWO-HEADED_TRIPLE_DASH[lARROW@DOTTED_STEMaUPW
  ARDS[_TO_BARaDOWNWARDS[_TO_BARaRIGHTWARDS[@TAIL@VERTICAL_STROKE,DOUBLE_VERTICAL_STROKElTWO-HEADE
  D[@TAIL?@VERTICAL_STROKE~TH_DOUBLE_VERTICAL_STROKEaLEFTWARDS[-TAILaRIGHTWARDS[-TAILaLEFTWARDS_DO
  UBLE[-TAILaRIGHTWARDS_DOUBLE[-TAILaLEFTWARDS[_TO_BLACK_DIAMONDaRIGHTWARDS[_TO_BLACK_DIAMONDaLEFT
  WARDS[_FROM_BAR_TO_BLACK_DIAMONDaRIGHTWARDS[_FROM_BAR_TO_BLACK_DIAMONDaNORTH_WEST/SOUTH_EAST[gEA
  ST/SOUTH_WEST[gWEST[@HOOKgEAST[@HOOKaSOUTH_EAST[@HOOKgWEST[@HOOKaNORTH_WEST[/NORTH_EAST[gEAST[/S
  OUTH_EAST[aSOUTH_EAST[/SOUTH_WEST[gWEST[/NORTH_WEST[aRISING_DIAGONAL_CROSSING_FALLING_DIAGONALaF
  ALLING_DIAGONAL_CROSSING_RISING_DIAGONALaSOUTH_EAST[_CROSSING_NORTH_EAST[aNORTH_EAST[_CROSSING_S
  OUTH_EAST[aFALLING_DIAGONAL_CROSSING_NORTH_EAST[aRISING_DIAGONAL_CROSSING_SOUTH_EAST[aNORTH_EAST
  [_CROSSING_NORTH_WEST[gWEST[_CROSSING_NORTH_EAST[aWAVE[_POINTING_DIRECTLY_RIGHTaARROW_POINTING_R
  IGHTWARDS_THEN_CURVING_UPWARDS|DOWNWARDSpDOWNWARDS_THEN_CURVING_LEFTWARDS^RIGHTWARDSaRIGHT-SIDE_
  ARC_CLOCKWISE[aLEFT-SIDE_ARC_ANTICLOCKWISE[aTOP_ARC_ANTICLOCKWISE[aBOTTOM_ARC_ANTICLOCKWISE[aTOP
  _ARC_CLOCKWISE[@MINUSiANTICLOCKWISE[@PLUSaLOWER_RIGHT_SEMICIRCULAR_CLOCKWISE[gLEFT_SEMICIRCULAR_
  ANTICLOCKWISE[aANTICLOCKWISE_CLOSED_CIRCLE[aCLOCKWISE_CLOSED_CIRCLE[aRIGHTWARDS[_ABOVE_SHORT_LEF
  TWARDS[aLEFTWARDS[_ABOVE_SHORT_RIGHTWARDS[aSHORT_RIGHTWARDS[_ABOVE_LEFTWARDS[aRIGHTWARDS[@PLUS_B
  ELOWaLEFTWARDS[@PLUS_BELOWaRIGHTWARDS[_THROUGH_XaLEFT_RIGHT[_THROUGH_)_CIRCLEaUPWARDS_TWO-HEADED
  [_FROM_)_CIRCLEaLEFT_BARB_UP_RIGHT_BARB_DOWN_HARPOONkDOWN_RIGHT_BARB_UP_HARPOONaUP_BARB_RIGHT_DO
  WN_BARB_LEFT_HARPOONiLEFT_DOWN_BARB_RIGHT_HARPOONaLEFT_BARB_UP_RIGHT_BARB_UP_HARPOONaUP_BARB_RIG
  HT_DOWN_BARB_RIGHT_HARPOONaLEFT_BARB_DOWN_RIGHT_BARB_DOWN_HARPOONaUP_BARB_LEFT_DOWN_BARB_LEFT_HA
  RPOONaLEFTWARDS_HARPOON@BARB_UP_TO_BARaRIGHTWARDS_HARPOON@BARB_UP_TO_BARaUPWARDS_HARPOON@BARB_RI
  GHT_TO_BARaDOWNWARDS_HARPOON@BARB_RIGHT_TO_BARaLEFTWARDS_HARPOON@BARB_DOWN_TO_BARaRIGHTWARDS_HAR
  POON@BARB_DOWN_TO_BARaUPWARDS_HARPOON@BARB_LEFT_TO_BARaDOWNWARDS_HARPOON@BARB_LEFT_TO_BARaLEFTWA
  RDS_HARPOON@BARB_UP_FROM_BARaRIGHTWARDS_HARPOON@BARB_UP_FROM_BARaUPWARDS_HARPOON@BARB_RIGHT_FROM
  _BARaDOWNWARDS_HARPOON@BARB_RIGHT_FROM_BARaLEFTWARDS_HARPOON@BARB_DOWN_FROM_BARaRIGHTWARDS_HARPO
  ON@BARB_DOWN_FROM_BARaUPWARDS_HARPOON@BARB_LEFT_FROM_BARaDOWNWARDS_HARPOON@BARB_LEFT_FROM_BARaLE
  FTWARDS_HARPOON@BARB_UP_ABOVE_LEFTWARDS_HARPOON@BARB_DOWNaUPWARDS_HARPOON@BARB_LEFT_BESIDE_UPWAR
  DS_HARPOON@BARB_RIGHTaRIGHTWARDS_HARPOON@BARB_UP_ABOVE_RIGHTWARDS_HARPOON@BARB_DOWNaDOWNWARDS_HA
  RPOON@BARB_LEFT_BESIDE_DOWNWARDS_HARPOON@BARB_RIGHTaLEFTWARDS_HARPOON@BARB_UP_ABOVE_RIGHTWARDS_H
  ARPOON@BARB_UP%DOWN_ABOVE_RIGHTWARDS_HARPOON@BARB_DOWNaRIGHTWARDS_HARPOON@BARB_UP_ABOVE_LEFTWARD
  S_HARPOON@BARB_UP&DOWN_ABOVE_LEFTWARDS_HARPOON@BARB_DOWNaLEFTWARDS_HARPOON@BARB_UP_ABOVE_LONG_DA
  SH%DOWN_BELOW_LONG_DASHaRIGHTWARDS_HARPOON@BARB_UP_ABOVE_LONG_DASH&DOWN_BELOW_LONG_DASHaUPWARDS_
  HARPOON@BARB_LEFT_BESIDE_DOWNWARDS_HARPOON@BARB_RIGHTaDOWNWARDS_HARPOON@BARB_LEFT_BESIDE_UPWARDS
  _HARPOON@BARB_RIGHTaRIGHT_DOUBLE[@ROUNDED_HEADaEQUALS_SIGN_ABOVE_RIGHTWARDS[aTILDE_OPERATOR_ABOV
  E_RIGHTWARDS[aLEFTWARDS[_ABOVE_TILDE_OPERATORaRIGHTWARDS[_ABOVE_TILDE_OPERATORxALMOST_EQUAL_TOaL
  ESS-THAN_ABOVE_LEFTWARDS[cFTWARDS[_THROUGH_LESS-THANaGREATER-THAN_ABOVE_RIGHTWARDS[aSUBSET_ABOVE
  _RIGHTWARDS[aLEFTWARDS[_THROUGH_SUBSETaSUPERSET_ABOVE_LEFTWARDS[aLEFT_FISH_TAILaRIGHT_FISH_TAILa
  UP_FISH_TAILaDOWN_FISH_TAILaTRIPLE_VERTICAL_BAR_DELIMITERaZ_NOTATION_SPOTlTYPE_COLONaLEFT_WHITE_
  CURLY_BRACKETaRIGHT_WHITE_CURLY_BRACKETaLEFT_WHITE_PARENTHESISaRIGHT_WHITE_PARENTHESISaZ_NOTATIO
  N_LEFT_IMAGE_BRACKETlRIGHT_IMAGE_BRACKETlLEFT_BINDING_BRACKETlRIGHT_BINDING_BRACKETaLEFT_SQUARE_
  BRACKET@UNDERBARaRIGHT_SQUARE_BRACKET@UNDERBARaLEFT_SQUARE_BRACKET@TICK_IN_TOP_CORNERaRIGHT_SQUA
  RE_BRACKET@TICK_IN_BOTTOM_CORNERaLEFT_SQUARE_BRACKET@TICK_IN_BOTTOM_CORNERaRIGHT_SQUARE_BRACKET@
  TICK_IN_TOP_CORNERaLEFT_ANGLE_BRACKET@DOTaRIGHT_ANGLE_BRACKET@DOTaLEFT_ARC_LESS-THAN_BRACKETaRIG
  HT_ARC_GREATER-THAN_BRACKETaDOUBLE_LEFT_ARC_GREATER-THAN_BRACKEThRIGHT_ARC_LESS-THAN_BRACKETaLEF
  T_BLACK_TORTOISE_SHELL_BRACKETaRIGHT_BLACK_TORTOISE_SHELL_BRACKETaDOTTED_FENCEaVERTICAL_ZIGZAG_L
  INEaMEASURED_ANGLE_OPENING_LEFTaRIGHT_ANGLE_VARIANT@SQUAREaMEASURED_RIGHT_ANGLE@DOTaANGLE@S_INSI
  DEbCUTE_ANGLEaSPHERICAL_ANGLE_OPENING_LEFTyUPaTURNED_ANGLEaREVERSED_ANGLEaANGLE@UNDERBARaREVERSE
  D_ANGLE@UNDERBARaOBLIQUE_ANGLE_OPENING_UPwDOWNaMEASURED_ANGLE@OPEN_ARM_ENDING_IN[_POINTING_UP/RI
  GHT~RROW_POINTING_UP/LEFT~RROW_POINTING_DOWN/RIGHT~RROW_POINTING_DOWN/LEFT~RROW_POINTING_RIGHT/U
  P~RROW_POINTING_LEFT/UP~RROW_POINTING_RIGHT/DOWN~RROW_POINTING_LEFT/DOWNaREVERSED_EMPTY_SETaEMPT
  Y_SET@OVERBARp)_CIRCLE_ABOVEpRIGHT[_ABOVEpLEFT[_ABOVEaCIRCLE@HORIZONTAL_BARgD_VERTICAL_BARiPARAL
  LELiREVERSE_SOLIDUSiPERPENDICULARg_DIVIDED_BY_HORIZONTAL_BAR/TOP_HALF_DIVIDED_BY_VERTICAL_BARhWI
  TH_SUPERIMPOSED_XgD_ANTICLOCKWISE-ROTATED_DIVISION_SIGNaUP[_THROUGH_CIRCLEaCIRCLED_WHITE_BULLETi
  BULLETiLESS-THANiGREATER-THANg@)_CIRCLE_TO_THE_RIGHTmTWO_HORIZONTAL_STROKES_TO_THE_RIGHTaSQUARED
  _RISING_DIAGONAL_SLASHiFALLING_DIAGONAL_SLASHiASTERISKi)_CIRCLEjQUAREaTWO_JOINED_SQUARESbRIANGLE
  @DOT_ABOVEoUNDERBARaS_IN_TRIANGLEaTRIANGLE@SERIFS_AT_BOTTOMaRIGHT_TRIANGLE_ABOVE_LEFT_TRIANGLEaL
  EFT_TRIANGLE_BESIDE_VERTICAL_BARaVERTICAL_BAR_BESIDE_RIGHT_TRIANGLEaBOWTIE@LEFT_HALF_BLACKmRIGHT
  _HALF_BLACKbLACK_BOWTIEaTIMES@LEFT_HALF_BLACKlRIGHT_HALF_BLACKaWHITE_HOURGLASSaBLACK_HOURGLASSaL
  EFT_WIGGLY_FENCEaRIGHT_WIGGLY_FENCEaLEFT_DOUBLE_WIGGLY_FENCEaRIGHT_DOUBLE_WIGGLY_FENCEaINCOMPLET
  E_INFINITYaTIE_OVER_INFINITYaINFINITY_NEGATED@VERTICAL_BARaDOUBLE-ENDED_MULTIMAPaSQUARE@CONTOURE
  D_OUTLINEaINCREASES_ASaSHUFFLE_PRODUCTaEQUALS_SIGN/SLANTED_PARALLEL,@TILDE_ABOVEaIDENTICAL_TO/SL
  ANTED_PARALLELaGLEICH_STARKaTHERMODYNAMICaDOWN-POINTING_TRIANGLE@LEFT_HALF_BLACK%RIGHT_HALF_BLAC
  KaBLACK_DIAMOND@DOWN[gLOZENGEaWHITE_CIRCLE@DOWN[aBLACK_CIRCLE@DOWN[aERROR-BARRED_WHITE_SQUAREnBL
  ACK_SQUAREnWHITE_DIAMONDnBLACK_DIAMONDnWHITE_CIRCLEnBLACK_CIRCLEaRULE-DELAYEDbEVERSE_SOLIDUS_OPE
  RATORaSOLIDUS@OVERBARaREVERSE_SOLIDUS@HORIZONTAL_STROKEaBIG_SOLIDUSeREVERSE_SOLIDUSaDOUBLE_PLUSa
  TRIPLE_PLUSaLEFT-POINTING_CURVED_ANGLE_BRACKETaRIGHT-POINTING_CURVED_ANGLE_BRACKETaTINYaMINYaN-A
  RY_CIRCLED_DOT_OPERATORoPLUS_OPERATORoTIMES_OPERATORgUNION_OPERATOR@DOT!PLUSgSQUARE_INTERSECTION
  _OPERATORnUNION_OPERATORaTWO_LOGICAL/OPERATORmOR_OPERATORaN-ARY_TIMES_OPERATORaMODULO_TWO_SUMaSU
  MMATION@INTEGRALaQUADRUPLE_INTEGRAL_OPERATORaFINITE_PART_INTEGRALaINTEGRAL@DOUBLE_STROKEjAVERAGE
  @SLASHaCIRCULATION_FUNCTIONaANTICLOCKWISE_INTEGRATIONaLINE_INTEGRATION@RECTANGULAR_PATH_AROUND_P
  OLEwSEMICIRCULAR_PATH_AROUND_POLErNOT_INCLUDING_THE_POLEaINTEGRAL_AROUND_A_POINT_OPERATORaQUATER
  NION_INTEGRAL_OPERATORaINTEGRAL@LEFTWARDS[@HOOKoTIMES_SIGNoINTERSECTIONoUNIONoOVERBARoUNDERBARaJ
  OINaLARGE_LEFT_TRIANGLE_OPERATORaZ_NOTATION_SCHEMA_COMPOSITIONsPIPINGtROJECTIONaPLUS_SIGN@)_CIRC
  LE_ABOVEpCIRCUMFLEX_ACCENT_ABOVEpTILDE_ABOVEpDOT_BELOWpTILDE_BELOWpSUBSCRIPT_TWOpBLACK_TRIANGLEa
  MINUS_SIGN@COMMA_ABOVEqDOT_BELOWqFALLING_DOTSqRISING_DOTSaPLUS_SIGN_IN_LEFT_HALF_CIRCLEnRIGHT_HA
  LF_CIRCLEaVECTOR_OR_CROSS_PRODUCTaMULTIPLICATION_SIGN@DOT_ABOVEzUNDERBARaSEMIDIRECT_PRODUCT@BOTT
  OM_CLOSEDbMASH_PRODUCTaMULTIPLICATION_SIGN_IN_LEFT_HALF_CIRCLExRIGHT_HALF_CIRCLEaCIRCLED_MULTIPL
  ICATION_SIGN@CIRCUMFLEX_ACCENTaMULTIPLICATION_SIGN_IN_DOUBLE_CIRCLEaCIRCLED_DIVISION_SIGNaPLUS_S
  IGN_IN_TRIANGLEaMINUS_SIGN_IN_TRIANGLEbULTIPLICATION_SIGN_IN_TRIANGLEaINTERIOR_PRODUCTaRIGHTHAND
  _INTERIOR_PRODUCTaZ_NOTATION_RELATIONAL_COMPOSITIONaAMALGAMATION_OR_COPRODUCTaINTERSECTION@DOTaU
  NION@MINUS_SIGNlOVERBARaINTERSECTION@OVERBARsLOGICAL_ANDaUNION@LOGICAL_ORgABOVE_INTERSECTIONaINT
  ERSECTION_ABOVE_UNIONaUNION_ABOVE_BAR_ABOVE_INTERSECTIONaINTERSECTION_ABOVE_BAR_ABOVE_UNIONaUNIO
  N_BESIDE/JOINED@UNIONaINTERSECTION_BESIDE/JOINED@INTERSECTIONaCLOSED_UNION@SERIFShINTERSECTION@S
  ERIFSaDOUBLE_SQUARE_INTERSECTIONoUNIONaCLOSED_UNION@SERIFS/SMASH_PRODUCTaLOGICAL_AND@DOT_ABOVEiO
  R@DOT_ABOVEaDOUBLE_LOGICAL_ANDpORaTWO_INTERSECTING_LOGICAL_ANDzORaSLOPING_LARGE_ORoANDaLOGICAL_O
  R_OVERLAPPING_LOGICAL_ANDiAND@MIDDLE_STEMiOR@MIDDLE_STEMiAND@HORIZONTAL_DASHiOR@HORIZONTAL_DASHi
  AND@DOUBLE_OVERBARrUNDERBARrDOUBLE_UNDERBARa)_VEE@UNDERBARaLOGICAL_OR@DOUBLE_OVERBARxUNDERBARaZ_
  NOTATION_DOMAIN_ANTIRESTRICTIONlRANGE_ANTIRESTRICTIONaEQUALS_SIGN@DOT_BELOWaIDENTICAL@DOT_ABOVEa
  TRIPLE_HORIZONTAL_BAR@DOUBLE_VERTICAL_STROKE$TRIPLE_VERTICAL_STROKEbILDE_OPERATOR@DOT_ABOVEuRISI
  NG_DOTSaSIMILAR_MINUS_SIMILARaCONGRUENT@DOT_ABOVEaEQUALS@ASTERISKaALMOST_EQUAL_TO@CIRCUMFLEX_ACC
  ENTbPPROXIMATELY_EQUAL_OR_EQUAL_TOaEQUALS_SIGN_ABOVE_PLUS_SIGNaPLUS_SIGN_ABOVE_EQUALS_SIGNaEQUAL
  S_SIGN_ABOVE_TILDE_OPERATORaDOUBLE_COLON_EQUALaTWO_CONSECUTIVE_EQUALS_SIGNSbHREE_CONSECUTIVE_EQU
  ALS_SIGNSaEQUALS_SIGN@TWO_DOTS_ABOVE/TWO_DOTS_BELOWdIVALENT@FOUR_DOTS_ABOVEaLESS-THAN@CIRCLE_INS
  IDEaGREATER-THAN@CIRCLE_INSIDEaLESS-THAN@QUESTION_MARK_ABOVEaGREATER-THAN@QUESTION_MARK_ABOVEaLE
  SS-THAN_OR_SLANTED_EQUAL_TOaGREATER-THAN_OR_SLANTED_EQUAL_TOaLESS-THAN_OR_SLANTED_EQUAL_TO@DOT_I
  NSIDEaGREATER-THAN_OR_SLANTED_EQUAL_TO@DOT_INSIDEaLESS-THAN_OR_SLANTED_EQUAL_TO@DOT_ABOVEaGREATE
  R-THAN_OR_SLANTED_EQUAL_TO@DOT_ABOVEaLESS-THAN_OR_SLANTED_EQUAL_TO@DOT_ABOVE_RIGHTaGREATER-THAN_
  OR_SLANTED_EQUAL_TO@DOT_ABOVE_LEFTaLESS-THAN_OR_APPROXIMATEaGREATER-THAN_OR_APPROXIMATEaLESS-THA
  N/SINGLE-LINE_NOT_EQUAL_TOaGREATER-THAN/SINGLE-LINE_NOT_EQUAL_TOaLESS-THAN/NOT_APPROXIMATEaGREAT
  ER-THAN/NOT_APPROXIMATEaLESS-THAN_ABOVE_DOUBLE-LINE_EQUAL_ABOVE_GREATER-THANaGREATER-THAN_ABOVE_
  DOUBLE-LINE_EQUAL_ABOVE_LESS-THANaLESS-THAN_ABOVE_SIMILAR_OR_EQUALaGREATER-THAN_ABOVE_SIMILAR_OR
  _EQUALaLESS-THAN_ABOVE_SIMILAR_ABOVE_GREATER-THANaGREATER-THAN_ABOVE_SIMILAR_ABOVE_LESS-THANaLES
  S-THAN_ABOVE_GREATER-THAN_ABOVE_DOUBLE-LINE_EQUALaGREATER-THAN_ABOVE_LESS-THAN_ABOVE_DOUBLE-LINE
  _EQUALaLESS-THAN_ABOVE_SLANTED_EQUAL_ABOVE_GREATER-THAN_ABOVE_SLANTED_EQUALaGREATER-THAN_ABOVE_S
  LANTED_EQUAL_ABOVE_LESS-THAN_ABOVE_SLANTED_EQUALaSLANTED_EQUAL_TO_OR_LESS-THANuGREATER-THANuLESS
  -THAN@DOT_INSIDEuGREATER-THAN@DOT_INSIDEaDOUBLE-LINE_EQUAL_TO_OR_LESS-THANyGREATER-THANmSLANTED_
  EQUAL_TO_OR_LESS-THAN,GREATER-THANaSIMILAR_OR_LESS-THANlGREATER-THANiABOVE_LESS-THAN_ABOVE_EQUAL
  S_SIGNoGREATER-THAN_ABOVE_EQUALS_SIGNaDOUBLE_NESTED_LESS-THANoGREATER-THANoLESS-THAN@UNDERBARaGR
  EATER-THAN_OVERLAPPING_LESS-THANnBESIDE_LESS-THANaLESS-THAN_CLOSED_BY_CURVEaGREATER-THAN_CLOSED_
  BY_CURVEaLESS-THAN_CLOSED_BY_CURVE_ABOVE_SLANTED_EQUALaGREATER-THAN_CLOSED_BY_CURVE_ABOVE_SLANTE
  D_EQUALa)ER_THANaLARGER_THANa)ER_THAN_OR_EQUAL_TOaLARGER_THAN_OR_EQUAL_TOaEQUALS_SIGN@BUMPY_ABOV
  EaPRECEDES_ABOVE_SINGLE-LINE_EQUALS_SIGNaSUCCEEDS_ABOVE_SINGLE-LINE_EQUALS_SIGNaPRECEDES_ABOVE_S
  INGLE-LINE_NOT_EQUAL_TOaSUCCEEDS_ABOVE_SINGLE-LINE_NOT_EQUAL_TOaPRECEDES_ABOVE_EQUALS_SIGNaSUCCE
  EDS_ABOVE_EQUALS_SIGNaPRECEDES_ABOVE_NOT_EQUAL_TOaSUCCEEDS_ABOVE_NOT_EQUAL_TOaPRECEDES_ABOVE_ALM
  OST_EQUAL_TOaSUCCEEDS_ABOVE_ALMOST_EQUAL_TOaPRECEDES_ABOVE_NOT_ALMOST_EQUAL_TOaSUCCEEDS_ABOVE_NO
  T_ALMOST_EQUAL_TOaDOUBLE_PRECEDEShSUCCEEDSaSUBSET@DOTcPERSET@DOTcBSET@PLUS_SIGN_BELOWcPERSET@PLU
  S_SIGN_BELOWcBSET@MULTIPLICATION_SIGN_BELOWcPERSET@MULTIPLICATION_SIGN_BELOWcBSET_OF_OR_EQUAL_TO
  @DOT_ABOVEcPERSET_OF_OR_EQUAL_TO@DOT_ABOVEcBSET_OF_ABOVE_EQUALS_SIGNcPERSET_OF_ABOVE_EQUALS_SIGN
  cBSET_OF_ABOVE_TILDE_OPERATORcPERSET_OF_ABOVE_TILDE_OPERATORcBSET_OF_ABOVE_ALMOST_EQUAL_TOcPERSE
  T_OF_ABOVE_ALMOST_EQUAL_TOcBSET_OF_ABOVE_NOT_EQUAL_TOcPERSET_OF_ABOVE_NOT_EQUAL_TObQUARE_LEFT_OP
  EN_BOX_OPERATORhRIGHT_OPEN_BOX_OPERATORaCLOSED_SUBSETjPERSETjBSET_OR_EQUAL_TOjPERSET_OR_EQUAL_TO
  aSUBSET_ABOVE_SUPERSETcPERSET_ABOVE_SUBSETcBSET_ABOVE_SUBSETcPERSET_ABOVE_SUPERSETjBESIDE_SUBSET
  qAND_JOINED_BY_DASH@SUBSETaELEMENT_OF_OPENING_DOWNWARDSaPITCHFORK@TEE_TOPaTRANSVERSAL_INTERSECTI
  ONaFORKINGaNONFORKINGaSHORT_LEFT_TACKgDOWN_TACKgUP_TACKaPERPENDICULAR@SaVERTICAL_BAR_TRIPLE_RIGH
  T_TURNSTILEaDOUBLE_VERTICAL_BAR_LEFT_TURNSTILEaVERTICAL_BAR_DOUBLE_LEFT_TURNSTILEaDOUBLE_VERTICA
  L_BAR_DOUBLE_LEFT_TURNSTILEaLONG_DASH_FROM_LEFT_MEMBER_OF_DOUBLE_VERTICALaSHORT_DOWN_TACK@OVERBA
  RgUP_TACK@UNDERBARoABOVE_SHORT_DOWN_TACKaDOUBLE_DOWN_TACKhUP_TACKhSTROKE_NOT_SIGNaREVERSED_DOUBL
  E_STROKE_NOT_SIGNaDOES_NOT_DIVIDE@REVERSED_NEGATION_SLASHaVERTICAL_LINE@CIRCLE_ABOVE!BELOWaDOWN_
  TACK@CIRCLE_BELOWaPARALLEL@HORIZONTAL_STROKEoTILDE_OPERATORaTRIPLE_VERTICAL_BAR_BINARY_RELATIONu
  WITH_HORIZONTAL_STROKEhCOLON_OPERATORhNESTED_LESS-THANoGREATER-THANaDOUBLE-LINE_SLANTED_LESS-THA
  N_OR_EQUAL_TOuGREATER-THAN_OR_EQUAL_TOaTRIPLE_SOLIDUS_BINARY_RELATIONaLARGE_TRIPLE_VERTICAL_BAR_
  OPERATORaDOUBLE_SOLIDUS_OPERATORaWHITE_VERTICAL_BARaN-ARY_WHITE_VERTICAL_BARbORTH_EAST_WHITE[gWE
  ST_WHITE[aSOUTH_EAST_WHITE[gWEST_WHITE[aLEFT_RIGHT_WHITE[eWARDS_BLACK[aUPWARDS_BLACK[aDOWNWARDS_
  BLACK[aNORTH_EAST_BLACK[gWEST_BLACK[aSOUTH_EAST_BLACK[gWEST_BLACK[aLEFT_RIGHT_BLACK[aUP_DOWN_BLA
  CK[aRIGHTWARDS[@TIP_DOWNWARDS!UPWARDSaLEFTWARDS[@TIP_DOWNWARDSzUPWARDSaSQUARE@TOP_HALF_BLACKmBOT
  TOM_HALF_BLACKmUPPER_RIGHT_DIAGONAL_HALF_BLACKmLOWER_LEFT_DIAGONAL_HALF_BLACKaDIAMOND@LEFT_HALF_
  BLACKnRIGHT_HALF_BLACKnTOP_HALF_BLACKnBOTTOM_HALF_BLACKbOTTED_SQUAREaBLACK_LARGE_SQUAREaWHITE_LA
  RGE_SQUAREaBLACK_VERY_)_SQUAREaWHITE_VERY_)_SQUAREaBLACK_PENTAGONaWHITE_PENTAGONgHEXAGONaBLACK_H
  EXAGONaHORIZONTAL_BLACK_HEXAGONaBLACK_LARGE_CIRCLEgMEDIUM_DIAMONDaWHITE_MEDIUM_DIAMONDaBLACK_MED
  IUM_LOZENGEaWHITE_MEDIUM_LOZENGEaBLACK_)_DIAMONDmLOZENGEaWHITE_)_LOZENGEaBLACK_HORIZONTAL_ELLIPS
  EaWHITE_HORIZONTAL_ELLIPSEaBLACK_VERTICAL_ELLIPSEaWHITE_VERTICAL_ELLIPSEaLEFT[@)_CIRCLEaTHREE_LE
  FTWARDS[SaLEFT[@CIRCLED_PLUSbONG_LEFTWARDS_SQUIGGLE[bEFTWARDS_TWO-HEADED[@VERTICAL_STROKE,DOUBLE
  _VERTICAL_STROKE$FROM_BARvTRIPLE_DASH[kARROW@DOTTED_STEMvTAIL@VERTICAL_STROKE+DOUBLE_VERTICAL_ST
  ROKEkTWO-HEADED[@TAIL>@VERTICAL_STROKE~H_DOUBLE_VERTICAL_STROKEkARROW_THROUGH_XaWAVE[_POINTING_D
  IRECTLY_LEFTaEQUALS_SIGN_ABOVE_LEFTWARDS[aREVERSE_TILDE_OPERATOR_ABOVE_LEFTWARDS[aLEFTWARDS[_ABO
  VE_REVERSE_ALMOST_EQUAL_TOaRIGHTWARDS[_THROUGH_GREATER-THANzSUPERSETaLEFTWARDS_QUADRUPLE[aRIGHTW
  ARDS_QUADRUPLE[bEVERSE_TILDE_OPERATOR_ABOVE_RIGHTWARDS[bIGHTWARDS[_ABOVE_REVERSE_ALMOST_EQUAL_TO
  aTILDE_OPERATOR_ABOVE_LEFTWARDS[aLEFTWARDS[_ABOVE_ALMOST_EQUAL_TOwREVERSE_TILDE_OPERATORaRIGHTWA
  RDS[_ABOVE_REVERSE_TILDE_OPERATORaDOWNWARDS_TRIANGLE-HEADED_ZIGZAG[aSHORT_SLANTED_NORTH[gBACKSLA
  NTED_SOUTH[aWHITE_MEDIUM_STARaBLACK_)_STARaWHITE_)_STARaBLACK_RIGHT-POINTING_PENTAGONaWHITE_RIGH
  T-POINTING_PENTAGONaHEAVY_LARGE_CIRCLEgOVAL@OVAL_INSIDEgCIRCLE@CIRCLE_INSIDEmmD_SALTIREaSLANTED_
  NORTH[@HOOKED_HEADaBACKSLANTED_SOUTH[@HOOKED_TAILaSLANTED_NORTH[@HORIZONTAL_TAILaBACKSLANTED_SOU
  TH[@HORIZONTAL_TAILbENT[_POINTING_DOWNWARDS_THEN_NORTH_EASTaSHORT_BENT[_POINTING_DOWNWARDS_THEN_
  NORTH_EASTaLEFTWARDS_TRIANGLE-HEADED[aUPWARDS_TRIANGLE-HEADED[aRIGHTWARDS_TRIANGLE-HEADED[aDOWNW
  ARDS_TRIANGLE-HEADED[aLEFT_RIGHT_TRIANGLE-HEADED[aUP_DOWN_TRIANGLE-HEADED[aNORTH_WEST_TRIANGLE-H
  EADED[gEAST_TRIANGLE-HEADED[aSOUTH_EAST_TRIANGLE-HEADED[gWEST_TRIANGLE-HEADED[aLEFTWARDS_TRIANGL
  E-HEADED_DASHED[aUPWARDS_TRIANGLE-HEADED_DASHED[aRIGHTWARDS_TRIANGLE-HEADED_DASHED[aDOWNWARDS_TR
  IANGLE-HEADED_DASHED[aCLOCKWISE_TRIANGLE-HEADED_OPEN_CIRCLE[aANTICLOCKWISE_TRIANGLE-HEADED_OPEN_
  CIRCLE[aLEFTWARDS_TRIANGLE-HEADED[_TO_BARaUPWARDS_TRIANGLE-HEADED[_TO_BARaRIGHTWARDS_TRIANGLE-HE
  ADED[_TO_BARaDOWNWARDS_TRIANGLE-HEADED[_TO_BAR=2B76aNORTH_WEST_TRIANGLE-HEADED[_TO_BARgEAST_TRIA
  NGLE-HEADED[_TO_BARaSOUTH_EAST_TRIANGLE-HEADED[_TO_BARgWEST_TRIANGLE-HEADED[_TO_BARaLEFTWARDS_TR
  IANGLE-HEADED[@DOUBLE_HORIZONTAL_STROKEaUPWARDS_TRIANGLE-HEADED[@DOUBLE_HORIZONTAL_STROKEaRIGHTW
  ARDS_TRIANGLE-HEADED[@DOUBLE_HORIZONTAL_STROKEaDOWNWARDS_TRIANGLE-HEADED[@DOUBLE_HORIZONTAL_STRO
  KEaHORIZONTAL_TAB_KEYaVERTICAL_TAB_KEYaLEFTWARDS_TRIANGLE-HEADED[_OVER_RIGHTWARDS_TRIANGLE-HEADE
  D[aUPWARDS_TRIANGLE-HEADED[_LEFTWARDS_OF_DOWNWARDS_TRIANGLE-HEADED[aRIGHTWARDS_TRIANGLE-HEADED[_
  OVER_LEFTWARDS_TRIANGLE-HEADED[aDOWNWARDS_TRIANGLE-HEADED[_LEFTWARDS_OF_UPWARDS_TRIANGLE-HEADED[
  aLEFTWARDS_TRIANGLE-HEADED_PAIRED[SaUPWARDS_TRIANGLE-HEADED_PAIRED[SaRIGHTWARDS_TRIANGLE-HEADED_
  PAIRED[SaDOWNWARDS_TRIANGLE-HEADED_PAIRED[SaLEFTWARDS_BLACK_CIRCLED_WHITE[aUPWARDS_BLACK_CIRCLED
  _WHITE[aRIGHTWARDS_BLACK_CIRCLED_WHITE[aDOWNWARDS_BLACK_CIRCLED_WHITE[aANTICLOCKWISE_TRIANGLE-HE
  ADED_RIGHT_U-SHAPED[*BOTTOM_U-SHAPED[*LEFT_U-SHAPED[*TOP_U-SHAPED[aRETURN_LEFThRIGHTaNEWLINE_LEF
  TiRIGHTaFOUR_CORNER[S_CIRCLING_ANTICLOCKWISEaRIGHTWARDS_BLACK[=2B97aSYMBOL_FOR_TYPE_A_ELECTRONIC
  SaTHREE-D_TOP-LIGHTED_LEFTWARDS_EQUILATERAL[HEADiRIGHT-LIGHTED_UPWARDS_EQUILATERAL[HEADiTOP-LIGH
  TED_RIGHTWARDS_EQUILATERAL[HEADiLEFT-LIGHTED_DOWNWARDS_EQUILATERAL[HEADaBLACK_LEFTWARDS_EQUILATE
  RAL[HEADgUPWARDS_EQUILATERAL[HEADgRIGHTWARDS_EQUILATERAL[HEADgDOWNWARDS_EQUILATERAL[HEADaDOWNWAR
  DS_TRIANGLE-HEADED[@LONG_TIP_LEFTWARDS~G_TIP_RIGHTWARDSaUPWARDS_TRIANGLE-HEADED[@LONG_TIP_LEFTWA
  RDS~TIP_RIGHTWARDSaLEFTWARDS_TRIANGLE-HEADED[@LONG_TIP_UPWARDSaRIGHTWARDS_TRIANGLE-HEADED[@LONG_
  TIP_UPWARDSaLEFTWARDS_TRIANGLE-HEADED[@LONG_TIP_DOWNWARDSaRIGHTWARDS_TRIANGLE-HEADED[@LONG_TIP_D
  OWNWARDSaBLACK_CURVED_DOWNWARDS/LEFTWARDS[$RIGHTWARDS[nUPWARDS/LEFTWARDS[zRIGHTWARDS[nLEFTWARDS/
  UPWARDS[nRIGHTWARDS/UPWARDS[nLEFTWARDS/DOWNWARDS[nRIGHTWARDS/DOWNWARDS[aRIBBON[_DOWN_LEFTsRIGHTn
  UP_LEFTqRIGHTnLEFT_UPnRIGHT_UPnLEFT_DOWNnRIGHT_DOWNaUPWARDS_WHITE[_FROM_BAR@HORIZONTAL_BARc[HEAD
  _IN_A_RECTANGLE_BOXaOVERLAPPING_WHITE_SQUARESsAND_BLACK_SQUARESmBLACK_SQUARESaBALLOT_BOX@LIGHT_X
  aCIRCLED_XiBOLD_XaBLACK_SQUARE_CENTREDgDIAMOND_CENTREDaTURNED_BLACK_PENTAGONaHORIZONTAL_BLACK_OC
  TAGONaBLACK_OCTAGONgMEDIUM_UP-POINTING_TRIANGLE_CENTREDnDOWN-POINTING_TRIANGLE_CENTREDnLEFT-POIN
  TING_TRIANGLE_CENTREDnRIGHT-POINTING_TRIANGLE_CENTREDaNEPTUNE]_TWOaTOP_HALF_BLACK_CIRCLEaBOTTOM_
  HALF_BLACK_CIRCLEaLIGHT_FOUR_POINTED_BLACK_CUSPaROTATED_LIGHT_FOUR_POINTED_BLACK_CUSPaWHITE_FOUR
  _POINTED_CUSPaROTATED_WHITE_FOUR_POINTED_CUSPaSQUARE_POSITION_INDICATORaUNCERTAINTY_SIGNaGROUP_M
  ARKaPLUTO]_TWOmHREElFOURmIVEaTRANSPLUTOaPROSERPINAaASTRAEAaHYGIEAaPHOLUSaNESSUSaWHITE_MOON_SELEN
  AaBLACK_DIAMOND_ON_CROSSaTRUE_LIGHT_MOON_ARTAaCUPIDOaHADESaZEUSaKRONOSaAPOLLONbDMETOSaVULCANUSaP
  OSEIDONaLEFT_HALF_BLACK_STARaRIGHT_HALF_BLACK_STARaSTAR@LEFT_HALF_BLACKkRIGHT_HALF_BLACKaLEFTWAR
  DS_TWO-HEADED[@TRIANGLE[HEADSaUPWARDS_TWO-HEADED[@TRIANGLE[HEADSaRIGHTWARDS_TWO-HEADED[@TRIANGLE
  [HEADSaDOWNWARDS_TWO-HEADED[@TRIANGLE[HEADSaERIS]_ONEkTWOaSEDNAaRUSSIAN_ASTROLOGICAL_SYMBOL_VIGI
  NTILE%NOVILE%QUINTILE%BINOVILE%SENTAGON%TREDECILEaEQUALS_SIGN@INFINITY_BELOWaUNITED_SYMBOLaSEPAR
  ATED_SYMBOLaDOUBLED_SYMBOLaPASSED_SYMBOLaREVERSED_RIGHT_ANGLEaHELLSCHREIBER_PAUSE_SYMBOLaGLAGOLI
  TIC_(:AZU!BUKY!VEDE!GLAGOLI!DOBRO!YESTU!ZHIVETE!DZELO!ZEMLJA!IZHE$NITIAL_IZHE$!DJERVI!KAKO!LJUDI
  JE!MYSLITE!NASHI!ONU!POKOJI!RITSI!SLOVO!TVRIDO!UKU!FRITU!HERU!OTU!PE!SHTA!TSI!CHRIVI!SHA!YERU&I$
  ATI!SPIDERY_HA!YU!)_YUS<@TAIL!YO!IOTATED_)_YUS!BIG_YUS!IOTATED_BIG_YUS!FITA!IZHITSA!SHTAPIC!TROK
  UTASTI_A!LATINATE_MYSLITE!CAUDATE_CHRIVIl):AZUyBUKYyVEDEyGLAGOLIyDOBROyYESTUyZHIVETEyDZELOyZEMLJ
  AyIZHEzNITIAL_IZHEzyDJERVIyKAKOyLJUDIJEyMYSLITEyNASHIyONUyPOKOJIyRITSIySLOVOyTVRIDOyUKUyFRITUyHE
  RUyOTUyPEySHTAyTSIyCHRIVIySHAyYERU$IzATIySPIDERY_HAyYUy)_YUS.@TAILyYOyIOTATED_)_YUSyBIG_YUSyIOTA
  TED_BIG_YUSyFITAyIZHITSAySHTAPICyTROKUTASTI_AyLATINATE_MYSLITEyCAUDATE_CHRIVIaLATIN_(:L@DOUBLE_B
  ARg):L@DOUBLE_BARg(:L@MIDDLE_TILDEvP@STROKEvR@TAILg):A@STROKEtT@DIAGONAL_STROKEg(:H@DESCENDERg):
  H@DESCENDERg(:K@DESCENDERg):K@DESCENDERg(:Z@DESCENDERg):Z@DESCENDERg(:ALPHAvM@HOOKvTURNED_A&LPHA
  g):V@RIGHT_HOOKg(:W@HOOKg):W@HOOKtV@CURLg(:HALF_Hg):HALF_HtTAILLESS_PHItE@NOTCHtTURNED_R@TAILtO@
  LOW_RING_INSIDEgLETTER_)_(_TURNED_EgSUBSCRIPT_):JaMODIFIER:(_VaLATIN_(:S@SWASH_TAILvZ@SWASH_TAIL
  aCOPTIC_(:ALFAh):ALFAh(:VIDAh):VIDAh(:GAMMAh):GAMMAh(:DALDAh):DALDAh(:EIEh):EIEh(:SOUh):SOUh(:ZA
  TAh):ZATAh(:HATEh):HATEh(:THETHEh):THETHEh(:IAUDAh):IAUDAh(:KAPAh):KAPAh(:LAULAh):LAULAh(:MIh):M
  Ih(:NIh):NIh(:KSIh):KSIh(:Oh):Oh(:PIh):PIh(:ROh):ROh(:SIMAh):SIMAh(:TAUh):TAUh(:UAh):UAh(:FIh):F
  Ih(:KHIh):KHIh(:PSIh):PSIh(:OOUh):OOUh(:DIALECT-P_ALEFh):DIALECT-P_ALEFh(:OLD_COPTIC_AINh):OLD_C
  OPTIC_AINh(:CRYPTOGRAMMIC_EIEh):CRYPTOGRAMMIC_EIEh(:DIALECT-P_KAPAh):DIALECT-P_KAPAh(:DIALECT-P_
  NIh):DIALECT-P_NIh(:CRYPTOGRAMMIC_NIh):CRYPTOGRAMMIC_NIh(:OLD_COPTIC_OOUh):OLD_COPTIC_OOUh(:SAMP
  Ih):SAMPIh(:CROSSED_SHEIh):CROSSED_SHEIh(:OLD_COPTIC_SHEIh):OLD_COPTIC_SHEIh(:OLD_COPTIC_ESHh):O
  LD_COPTIC_ESHh(:AKHMIMIC_KHEIh):AKHMIMIC_KHEIh(:DIALECT-P_HORIh):DIALECT-P_HORIh(:OLD_COPTIC_HOR
  Ih):OLD_COPTIC_HORIh(:OLD_COPTIC_HAh):OLD_COPTIC_HAh(:L-SHAPED_HAh):L-SHAPED_HAh(:OLD_COPTIC_HEI
  h):OLD_COPTIC_HEIh(:OLD_COPTIC_HATh):OLD_COPTIC_HATh(:OLD_COPTIC_GANGIAh):OLD_COPTIC_GANGIAh(:OL
  D_COPTIC_DJAh):OLD_COPTIC_DJAh(:OLD_COPTIC_SHIMAh):OLD_COPTIC_SHIMAh(:OLD_NUBIAN_SHIMAh):OLD_NUB
  IAN_SHIMAh(:OLD_NUBIAN_NGIh):OLD_NUBIAN_NGIh(:OLD_NUBIAN_NYIh):OLD_NUBIAN_NYIh(:OLD_NUBIAN_WAUh)
  :OLD_NUBIAN_WAUiYMBOL_KAIoMI_ROoPI_ROoSTAUROSoTAU_ROoKHI_ROoSHIMA_SIMAh(:CRYPTOGRAMMIC_SHEIh):CR
  YPTOGRAMMIC_SHEIh(:CRYPTOGRAMMIC_GANGIAh):CRYPTOGRAMMIC_GANGIAhCOMBINING_NI_ABOVErSPIRITUS_ASPER
  !LENISiAPITAL:BOHAIRIC_KHEIh):BOHAIRIC_KHEI=2CF9hOLD_NUBIAN_FULL_STOPsDIRECT_QUESTION_MARKsINDIR
  ECT_QUESTION_MARKsVERSE_DIVIDERhFRACTION_ONE_HALFiULL_STOPhMORPHOLOGICAL_DIVIDERaGEORGIAN_):ANwB
  ANwGANwDONwENwVINwZENwTANwINwKANwLASwMANwNARwONwPARwZHARwRAEwSANwTARwUNwPHARwKHARwGHANwQARwSHINw
  CHINxANwJILwCILxHARwXANwJHANwHAExExIEwWEwHARxOE=2D27wYN=2D2DwAEN=2D30aTIFINAGH:YAsBtHsGtHHqBERBE
  R_ACADEMY_YAJqYAJsDtHtDuHrEYrAFsKqTUAREG_YAKqYAKHHsHqBERBER_ACADEMY_YAHqTUAREG_YAHqYAHHsAsKHqTUA
  REG_YAKHqYAQqTUAREG_YAQqYIrAZHqAHAGGAR_YAZHqTUAREG_YAZHqYALsMsNqTUAREG_YAGNzNGqYAPrUrARtRsGHqTUA
  REG_YAGHqAYER_YAGHqYAStStHsTtHsCHsTTsVsWsYsZqTAWELLEMET_YAZqYAZZrErO=2D6FjMODIFIER:LABIALIZATION
  _MARKjSEPARATOR_MARK=2D7FjCONSONANT_JOINERaETHIOPIC_SYLLABLE_LOAsMOAsROAsSOAtHOAsBOAsTOAsCOAsNOA
  tYOAsGLOTTAL_OAsZOAsDOAtDOAsJOAsTHOAsCHOAsPHOAtOAsGGWAvIvEEw=2DA0sSSAuUuIuAAuEEvuO=2DA8sCCAuUuIu
  AAuEEvuO=2DB0sZZAuUuIuAAuEEvuO=2DB8sCCHAvUvIvAAvEEwvO=2DC0sQYAuUuIuAAuEEvuO=2DC8sKYAuUuIuAAuEEvu
  O=2DD0sXYAuUuIuAAuEEvuO=2DD8sGYAuUuIuAAuEEvuO=2DE0aCOMBINING_CYRILLIC:BE!VE!GHE!DE!ZHE$E!KA!EL$M
  $N!O!PE!ER$S!TE!HA!TSE!CHE!SHA%CHA!FITA!ES-TE!A!IE!DJERV!MONOGRAPH_UK!YAT$U!IOTIFIED_A!LITTLE_YU
  S!BIG_YUS!IOTIFIED_BIG_YUSaRIGHT_ANGLE_SUBSTITUTION_MARKERmDOTTED_SUBSTITUTION_MARKERaLEFT_SUBST
  ITUTION_BRACKETaRIGHT_SUBSTITUTION_BRACKETaLEFT_DOTTED_SUBSTITUTION_BRACKETaRIGHT_DOTTED_SUBSTIT
  UTION_BRACKETbAISED_INTERPOLATION_MARKERhDOTTED_INTERPOLATION_MARKERaDOTTED_TRANSPOSITION_MARKER
  aLEFT_TRANSPOSITION_BRACKETaRIGHT_TRANSPOSITION_BRACKETbAISED_SQUAREaLEFT_RAISED_OMISSION_BRACKE
  TaRIGHT_RAISED_OMISSION_BRACKETaEDITORIAL_CORONISaPARAGRAPHOSaFORKED_PARAGRAPHOSaREVERSED_FORKED
  _PARAGRAPHOSaHYPODIASTOLEaDOTTED_OBELOScWNWARDS_ANCORAaUPWARDS_ANCORAaDOTTED_RIGHT-POINTING_ANGL
  EcUBLE_OBLIQUE_HYPHENaINVERTED_INTERROBANGaPALM_BRANCHaHYPHEN@DIAERESISaTILDE@RING_ABOVEaLEFT_LO
  W_PARAPHRASE_BRACKETaRIGHT_LOW_PARAPHRASE_BRACKETaTILDE@DOT_ABOVEpBELOWaLEFT_VERTICAL_BAR@QUILLa
  RIGHT_VERTICAL_BAR@QUILLaTOP_LEFT_HALF_BRACKETeRIGHT_HALF_BRACKETaBOTTOM_LEFT_HALF_BRACKEThRIGHT
  _HALF_BRACKETaLEFT_SIDEWAYS_U_BRACKETaRIGHT_SIDEWAYS_U_BRACKETaLEFT_DOUBLE_PARENTHESISaRIGHT_DOU
  BLE_PARENTHESISaTWO_DOTS_OVER_ONE_DOT_PUNCTUATIONaONE_DOT_OVER_TWO_DOTS_PUNCTUATIONaSQUARED_FOUR
  _DOT_PUNCTUATIONaFIVE_DOT_MARKaREVERSED_QUESTION_MARKaVERTICAL_TILDEaRING_POINTaWORD_SEPARATOR_M
  IDDLE_DOTaTURNED_COMMAaRAISED_DOThCOMMAaTURNED_SEMICOLONaDAGGER@LEFT_GUARDmRIGHT_GUARDaTURNED_DA
  GGERbOP_HALF_SECTION_SIGNbWO-EM_DASHbHREE-EM_DASHaSTENOGRAPHIC_FULL_STOPaVERTICAL_SIX_DOTSaWIGGL
  Y_VERTICAL_LINEaCAPITULUMaDOUBLE_HYPHENaREVERSED_COMMAaDOUBLE_LOW-REVERSED-9_QUOTATION_MARKbASH@
  LEFT_UPTURNbOUBLE_SUSPENSION_MARKaINVERTED_LOW_KAVYKAt@KAVYKA_ABOVEaLOW_KAVYKAk@DOTaDOUBLE_STACK
  ED_COMMAcTTED_SOLIDUSaTRIPLE_DAGGERaMEDIEVAL_COMMAaPARAGRAPHUS_MARKbUNCTUS_ELEVATUS_MARKaCORNISH
  _VERSE_DIVIDERbROSS_PATTY@RIGHT_CROSSBARrLEFT_CROSSBARaTIRONIAN_SIGN_(_ETaMEDIEVAL_EXCLAMATION_M
  ARKjQUESTION_MARKaLEFT_SQUARE_BRACKET@STROKEaRIGHT_SQUARE_BRACKET@STROKEaLEFT_SQUARE_BRACKET@DOU
  BLE_STROKEaRIGHT_SQUARE_BRACKET@DOUBLE_STROKEaTOP_HALF_LEFT_PARENTHESISjRIGHT_PARENTHESISaBOTTOM
  _HALF_LEFT_PARENTHESISmRIGHT_PARENTHESISaOBLIQUE_HYPHEN=2E80aCJK_RADICAL_REPEATmCLIFFmSECOND_ONE
  tTWOuHREEmPERSONmBOXmTABLEmKNIFE_ONEsTWOmDIVINATIONmSEALnMALL_ONEsTWOmLAME_ONErTWOsHREErFOURmSNA
  KEmTHREADmSNOUT_ONEsTWOmHEART_ONEsTWOnANDmRAP=2E9BmCHOKEmSUNmMOONmDEATHmMOTHERmCIVILIANmWATER_ON
  EsTWOmFIREmPAW_ONEqTWOmSIMPLIFIED_HALF_TREE_TRUNKmCOWmDOGmJADEmBOLT_OF_CLOTHmEYEmSPIRIT_ONEtTWOm
  BAMBOOmSILKmC-SIMPLIFIED_SILKmNET_ONEqTWOrHREEqFOURmMESHmSHEEPmRAMmEWEmOLDmBRUSH_ONEsTWOmMEATnOR
  TARmGRASS_ONEsTWOtHREEmTIGERmCLOTHESmWEST_ONErTWOmC-SIMPLIFIED_SEEmSIMPLIFIED_HORNmHORNmC-SIMPLI
  FIED_SPEECH!HELLmFOOTmC-SIMPLIFIED_CARTmSIMPLIFIED_WALKmWALK_ONErTWOmCITYn-SIMPLIFIED_GOLDmLONG_
  ONErTWOmC-SIMPLIFIED_LONGzGATEmMOUND_ONEsTWOmRAINmBLUEmC-SIMPLIFIED_TANNED_LEATHERzLEAFzWINDzFLY
  mEAT_ONEqTWOrHREEmC-SIMPLIFIED_EATmHEADmC-SIMPLIFIED_HORSEmBONEmGHOSTmC-SIMPLIFIED_FISHzBIRDzSAL
  TmSIMPLIFIED_WHEATxYELLOWmC-SIMPLIFIED_FROGmJ-SIMPLIFIED_EVENmC-SIMPLIFIED_EVENmJ-SIMPLIFIED_TOO
  THmC-SIMPLIFIED_TOOTHmJ-SIMPLIFIED_DRAGONmC-SIMPLIFIED_DRAGONmTURTLEmJ-SIMPLIFIED_TURTLEmC-SIMPL
  IFIED_TURTLE=2F00aKANGXI_RADICAL_ONEpLINEpDOTpSLASHqECONDpHOOKpTWOpLIDpMANpLEGSpENTERqIGHTpDOWN_
  BOXpCOVERpICEpTABLEpOPEN_BOXpKNIFEpPOWERpWRAPpSPOONpRIGHT_OPEN_BOXpHIDING_ENCLOSUREpTENpDIVINATI
  ONpSEALpCLIFFpPRIVATEpAGAINpMOUTHpENCLOSUREqARTHpSCHOLARpGOr_SLOWLYpEVENINGpBIGpWOMANpCHILDpROOF
  pINCHp)pLAMEpCORPSEpSPROUTpMOUNTAINpRIVERpWORKpONESELFpTURBANpDRYpSHORT_THREADpDOTTED_CLIFFpLONG
  _STRIDEpTWO_HANDSpSHOOTpBOWpSNOUTpBRISTLEpSTEPpHEARTqALBERDpDOORpHANDpBRANCHpRAPpSCRIPTpDIPPERpA
  XEpSQUAREpNOTpSUNqAYpMOONpTREEpLACKpSTOPpDEATHpWEAPONpDO_NOTpCOMPAREpFURpCLANpSTEAMpWATERpFIREpC
  LAWpFATHERpDOUBLE_XpHALF_TREE_TRUNKpSLICEpFANGpCOWpDOGpPROFOUNDpJADEpMELONpTILEpSWEETpLIFEpUSEpF
  IELDpBOLT_OF_CLOTHpSICKNESSpDOTTED_TENTpWHITEpSKINpDISHpEYEpSPEARpARROWpSTONEqPIRITpTRACKpGRAINp
  CAVEpSTANDpBAMBOOpRICEpSILKpJARpNETpSHEEPpFEATHERpOLDpANDpPLOWpEARpBRUSHpMEATqINISTERpSELFpARRIV
  EpMORTARpTONGUEpOPPOSEpBOATpSTOPPINGpCOLORpGRASSpTIGERpINSECTpBLOODpWALK_ENCLOSUREpCLOTHESpWESTp
  SEEpHORNpSPEECHpVALLEYpBEANpPIGpBADGERpSHELLpREDqUNpFOOTpBODYpCARTpBITTERpMORNINGpWALKpCITYpWINE
  pDISTINGUISHpVILLAGEpGOLDpLONGpGATEpMOUNDpSLAVEqHORT_TAILED_BIRDpRAINpBLUEpWRONGpFACEpLEATHERpTA
  NNED_LEATHERpLEEKpSOUNDpLEAFpWINDpFLYpEATpHEADpFRAGRANTpHORSEpBONEpTALLpHAIRpFIGHTpSACRIFICIAL_W
  INEpCAULDRONpGHOSTpFISHpBIRDpSALTpDEERpWHEATpHEMPpYELLOWpMILLETpBLACKpEMBROIDERYpFROGpTRIPODpDRU
  MpRATpNOSEpEVENpTOOTHpDRAGONpTURTLEpFLUTE=2FF0aIDEOGRAPHIC_DESCRIPTION_CHARACTER_LEFT_TO_RIGHT;A
  BOVE_TO_BELOW;LEFT_TO_MIDDLE/RIGHT;ABOVE_TO_MIDDLE/BELOW;FULL_SURROUND;SURROUND_FROM_ABOVE~ND_FR
  OM_BELOW~ND_FROM_LEFT~ND_FROM_UPPER_LEFT~ND_FROM_UPPER_RIGHT~ND_FROM_LOWER_LEFT;OVERLAID"

end BpfCompiler.Text.Name
