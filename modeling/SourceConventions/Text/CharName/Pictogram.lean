/-!
# Names of characters: notations, pictograms and tags
-/

namespace SourceConventions.Text.CharName

/-- Names of characters from U+1D000 to U+E01EF. -/
def pictograms : String :=
  "1D000 aBYZANTINE_MUSICAL_SYMBOL_PSILI dDASEIA dPERISPOMENI dOXEIA_EKFONITIKON eDIPLI
    dVAREIA_EKFONITIKON eDIPLI dKATHISTI dSYRMATIKI dPARAKLITIKI dYPOKRISIS dYPOKRISIS_DIPLI
    dKREMASTI dAPESO_EKFONITIKON dEXO_b dTELEIA dKENTIMATA dAPOSTROFOS dAPOSTROFOS_DIPLI dSYNEVMA
    dTHITA dOLIGON_ARCHAION dGORGON_b dPSILON dCHAMILON dVATHY dISON_ARCHAION dKENTIMA_b
    dKENTIMATA_b dSAXIMATA dPARICHON dSTAVROS_APODEXIA dOXEIAI_ARCHAION dVAREIAI_b dAPODERMA_b
    dAPOTHEMA dKLASMA dREVMA dPIASMA_ARCHAION dTINAGMA dANATRICHISMA dSEISMA dSYNAGMA_ARCHAION
    eMETA_STAVROU dOYRANISMA_ARCHAION dTHEMA dLEMOI dDYO dTRIA dTESSERA dKRATIMATA dAPESO_EXO_NEO
    dFTHORA_ARCHAION dIMIFTHORA dTROMIKON_ARCHAION dKATAVA_TROMIKON dPELASTON dPSIFISTON dKONTEVMA
    dCHOREVMA_ARCHAION dRAPISMA dPARAKALESMA_ARCHAION dPARAKLITIKI_b dICHADIN dNANA dPETASMA
    dKONTEVMA_ALLO dTROMIKON_b dSTRAGGISMATA dGRONTHISMATA dISON_NEO dOLIGON_b dOXEIA_b dPETASTI
    dKOUFISMA dPETASTOKOUFISMA dKRATIMOKOUFISMA dPELASTON_NEO dKENTIMATA_NEO_ANO dKENTIMA_c dYPSILI
    dAPOSTROFOS_NEO dAPOSTROFOI_SYNDESMOS_b dYPORROI dKRATIMOYPORROON dELAFRON dCHAMILI dMIKRON_ISON
    dVAREIA_NEO dPIASMA_b dPSIFISTON_b dOMALON dANTIKENOMA dLYGISMA dPARAKLITIKI_NEO dPARAKALESMA_b
    dETERON_PARAKALESMA dKYLISMA dANTIKENOKYLISMA dTROMIKON_NEO dEKSTREPTON dSYNAGMA_NEO dSYRMA
    dCHOREVMA_NEO dEPEGERMA dSEISMA_NEO dXIRON_KLASMA dTROMIKOPSIFISTON dPSIFISTOLYGISMA
    dTROMIKOLYGISMA dTROMIKOPARAKALESMA dPSIFISTOPARAKALESMA dTROMIKOSYNAGMA dPSIFISTOSYNAGMA
    dGORGOSYNTHETON dARGOSYNTHETON dETERON_b dOYRANISMA_NEO dTHEMATISMOS_ESO eEXO dTHEMA_APLOUN
    dTHES_KAI_APOTHES dKATAVASMA dENDOFONON dYFEN_KATO eANO dSTAVROS dKLASMA_ANO dDIPLI_ARCHAION
    dKRATIMA_b eALLO eNEO dAPODERMA_b dAPLI dDIPLI dTRIPLI dTETRAPLI dKORONIS dLEIMMA_ENOS_CHRONOU
    eDYO_CHRONON eTRION_b eTESSARON_b eIMISEOS_CHRONOU dGORGON_NEO_ANO ePARESTIGMENON_ARISTERA
    fDEXIA dDIGORGON dDIGORGON_PARESTIGMENON_ARISTERA_KATO gANO fDEXIA dTRIGORGON dARGON dIMIDIARGON
    dDIARGON dAGOGI_POLI_ARGI eARGOTERI eARGI eMETRIA eMESI eGORGI eGORGOTERI ePOLI_GORGI
    dMARTYRIA_PROTOS_ICHOS eALLI_c eDEYTEROS_b eALLI_c eTRITOS_b eTRIFONIAS eTETARTOS_ICHOS
    fLEGETOS_b ec ePLAGIOS_b dISAKIA_TELOUS_ICHIMATOS dAPOSTROFOI_c dFANEROSIS_TETRAFONIAS
    eMONOFONIAS eDIFONIAS dMARTYRIA_VARYS_ICHOS ePROTOVARYS_b ePLAGIOS_TETARTOS_b
    dGORTHMIKON_N_APLOUN fDIPLOUN dENARXIS_KAI_FTHORA_VOU dIMIFONON dIMIFTHORON
    dFTHORA_ARCHAION_DEYTEROU_ICHOU eDIATONIKI_PA fNANA eNAOS_ICHOS eDIATONIKI_DI
    eSKLIRON_DIATONON_b eDIATONIKI_KE fZO fNI_KATO gANO eMALAKON_CHROMA_DIFONIAS gMONOFONIAS
    dFHTORA_SKLIRON_CHROMA_VASIS dFTHORA_SKLIRON_CHROMA_SYNAFI eNENANO dCHROA_ZYGOS eKLITON eSPATHI
    dFTHORA_I_YFESIS_TETARTIMORION eENARMONIOS_ANTIFONIA dYFESIS_TRITIMORION dDIESIS_b
    eTETARTIMORION eAPLI_DYO_DODEKATA eMONOGRAMMOS_TESSERA_b eDIGRAMMOS_EX_b eTRIGRAMMOS_OKTO_b
    dYFESIS_APLI_DYO_b eMONOGRAMMOS_TESSERA_b eDIGRAMMOS_EX_b eTRIGRAMMOS_OKTO_b dGENIKI_DIESIS
    eYFESIS dDIASTOLI_APLI_MIKRI fMEGALI eDIPLI eTHESEOS dSIMANSIS_b eTHESEOS_DISIMOU fTRISIMOU
    fTETRASIMOU eARSEOS eARSEOS_DISIMOU fTRISIMOU fTETRASIMOU dDIGRAMMA_GG dDIFTOGGOS_OU dSTIGMA
    dARKTIKO_PA eVOU eGA eDI eKE eZO eNI dKENTIMATA_NEO_MESO dKENTIMA_c dKENTIMATA_NEO_KATO
    dKENTIMA_c dKLASMA_b dGORGON_NEO_b 1D100 aMUSICAL_SYMBOL_SINGLE_BARLINE cDOUBLE_b cFINAL_b
    cREVERSE_c cDASHED_b cSHORT_b cLEFT_REPEAT_SIGN cRIGHT_c cREPEAT_DOTS cDAL_SEGNO cDA_CAPO cSEGNO
    cCODA cREPEATED_FIGURE-1 e2 e3 cFERMATA cFERMATA_BELOW cBREATH_MARK cCAESURA cBRACE cBRACKET
    cONE-LINE_STAFF cTWO-c cTHREE-c cFOUR-c cFIVE-c cSIX-c dSTRING_FRETBOARD cFOUR-c cG_CLEF
    dCLEF_OTTAVA_ALTA fBASSA cC_CLEF cF_b dCLEF_OTTAVA_ALTA fBASSA cDRUM_CLEF-1 e2 1D129
    cMULTIPLE_MEASURE_REST cDOUBLE_SHARP dFLAT cFLAT_UP dDOWN cNATURAL_UP dDOWN cSHARP_UP dDOWN
    cQUARTER_TONE_SHARP eFLAT cCOMMON_TIME cCUT_b cOTTAVA_ALTA dBASSA cQUINDICESIMA_ALTA dBASSA
    cMULTI_REST cWHOLE_b cHALF_b cQUARTER_b cEIGHTH_b cSIXTEENTH_b cTHIRTY-SECOND_b cSIXTY-FOURTH_b
    cONE_HUNDRED_TWENTY-EIGHTH_b cX_NOTEHEAD cPLUS_b cCIRCLE_X_b cSQUARE_NOTEHEAD_WHITE eBLACK
    cTRIANGLE_NOTEHEAD_UP_WHITE fBLACK eLEFT_WHITE fBLACK eRIGHT_WHITE fBLACK eDOWN_WHITE fBLACK
    eUP_RIGHT_WHITE gBLACK cMOON_NOTEHEAD_WHITE eBLACK cTRIANGLE-ROUND_NOTEHEAD_DOWN_WHITE gBLACK
    cPARENTHESIS_NOTEHEAD cVOID_b cNOTEHEAD_BLACK cNULL_NOTEHEAD cCLUSTER_NOTEHEAD_WHITE eBLACK
    cBREVE cWHOLE_NOTE cHALF_b cQUARTER_b cEIGHTH_b cSIXTEENTH_b cTHIRTY-SECOND_b cSIXTY-FOURTH_b
    cONE_HUNDRED_TWENTY-EIGHTH_b cCOMBINING_STEM dSPRECHGESANG_b dTREMOLO-1 e2 e3
    cFINGERED_TREMOLO-1 e2 e3 cCOMBINING_AUGMENTATION_DOT dFLAG-1 e2 e3 e4 e5 cBEGIN_BEAM cEND_b
    cBEGIN_TIE cEND_b cBEGIN_SLUR cEND_b cBEGIN_PHRASE cEND_b cCOMBINING_ACCENT dSTACCATO dTENUTO
    dSTACCATISSIMO dMARCATO dMARCATO-STACCATO dACCENT-b dLOURE cARPEGGIATO_UP dDOWN cCOMBINING_DOIT
    dRIP dFLIP dSMEAR dBEND dDOUBLE_TONGUE dTRIPLE_b cRINFORZANDO cSUBITO cZ cPIANO cMEZZO cFORTE
    cCRESCENDO cDECRESCENDO cGRACE_NOTE_SLASH eNO_b cTR cTURN cINVERTED_b cTURN_SLASH dUP
    cORNAMENT_STROKE-1 e2 e3 e4 e5 e6 e7 e8 e9 e10 e11 cHAUPTSTIMME cNEBENSTIMME cEND_OF_STIMME
    cDEGREE_SLASH cCOMBINING_DOWN_BOW dUP_b dHARMONIC dSNAP_PIZZICATO cPEDAL_MARK dUP_b
    cHALF_PEDAL_b cGLISSANDO_UP dDOWN cWITH_FINGERNAILS cDAMP cDAMP_ALL cMAXIMA cLONGA cBREVIS
    cSEMIBREVIS_WHITE dBLACK cMINIMA cMINIMA_BLACK cSEMIMINIMA_WHITE dBLACK cFUSA_WHITE dBLACK
    cLONGA_PERFECTA_REST dIMPERFECTA_b cBREVIS_b cSEMIBREVIS_b cMINIMA_b cSEMIMINIMA_b
    cTEMPUS_PERFECTUM_CUM_PROLATIONE_PERFECTA gIMPERFECTA gPERFECTA_DIMINUTION-1
    dIMPERFECTUM_CUM_PROLATIONE_PERFECTA gIMPERFECTA gIMPERFECTA_DIMINUTION-1 i2 i3 cCROIX
    cGREGORIAN_C_CLEF dF_b cSQUARE_B cVIRGA cPODATUS cCLIVIS cSCANDICUS cCLIMACUS cTORCULUS
    cPORRECTUS cPORRECTUS_FLEXUS cSCANDICUS_b cTORCULUS_RESUPINUS cPES_SUBPUNCTIS cKIEVAN_C_CLEF
    dEND_OF_PIECE dFINAL_NOTE dRECITATIVE_MARK dWHOLE_NOTE dHALF_b dQUARTER_NOTE_STEM_DOWN gUP
    dEIGHTH_NOTE_STEM_DOWN gUP dFLAT_SIGN cSORI cKORON 1D200 aGREEK_VOCAL_NOTATION_SYMBOL-1 e2 e3 e4
    e5 e6 e7 e8 e9 e10 e11 e12 e13 e14 e15 e16 e17 e18 e19 e20 e21 e22 e23 e24 e50 e51 e52 e53 e54
    bINSTRUMENTAL_NOTATION_SYMBOL-1 e2 e4 e5 e7 e8 e11 e12 e13 e14 e17 e18 e19 e23 e24 e25 e26 e27
    e29 e30 e32 e36 e37 e38 e39 e40 e42 e43 e45 e47 e48 e49 e50 e51 e52 e53 e54
    aCOMBINING_GREEK_MUSICAL_TRISEME dTETRASEME dPENTASEME aGREEK_MUSICAL_LEIMMA 1D2E0
    aMAYAN_NUMERAL_ZERO cONE cTWO cTHREE cFOUR cFIVE cSIX cSEVEN cEIGHT cNINE cTEN cELEVEN cTWELVE
    cTHIRTEEN cFOURTEEN cFIFTEEN cSIXTEEN cSEVENTEEN cEIGHTEEN cNINETEEN 1D300 aMONOGRAM_FOR_EARTH
    aDIGRAM_FOR_HEAVENLY_b cHUMAN_b cEARTHLY_HEAVEN dHUMAN cEARTH aTETRAGRAM_FOR_CENTRE cFULL_CIRCLE
    cMIRED cBARRIER cKEEPING_SMALL cCONTRARIETY cASCENT cOPPOSITION cBRANCHING_OUT
    cDEFECTIVENESS_OR_DISTORTION cDIVERGENCE cYOUTHFULNESS cINCREASE cPENETRATION cREACH cCONTACT
    cHOLDING_BACK cWAITING cFOLLOWING cADVANCE cRELEASE cRESISTANCE cEASE cJOY cCONTENTION
    cENDEAVOUR cDUTIES cCHANGE cDECISIVENESS cBOLD_RESOLUTION cPACKING cLEGION cCLOSENESS cKINSHIP
    cGATHERING cSTRENGTH cPURITY cFULLNESS cRESIDENCE cLAW_OR_MODEL cRESPONSE cGOING_TO_MEET
    cENCOUNTERS cSTOVE cGREATNESS cENLARGEMENT cPATTERN cRITUAL cFLIGHT cVASTNESS_OR_WASTING
    cCONSTANCY cMEASURE cETERNITY cUNITY cDIMINISHMENT cCLOSED_MOUTH cGUARDEDNESS cGATHERING_IN
    cMASSING cACCUMULATION cEMBELLISHMENT cDOUBT cWATCH cSINKING cINNER cDEPARTURE cDARKENING
    cDIMMING cEXHAUSTION cSEVERANCE cSTOPPAGE cHARDNESS cCOMPLETION cCLOSURE cFAILURE cAGGRAVATION
    cCOMPLIANCE cON_THE_VERGE cDIFFICULTIES cLABOURING cFOSTERING 1D360 aCOUNTING_ROD_UNIT_DIGIT_ONE
    eTWO eTHREE eFOUR eFIVE eSIX eSEVEN eEIGHT eNINE cTENS_DIGIT_ONE eTWO eTHREE eFOUR eFIVE eSIX
    eSEVEN eEIGHT eNINE aIDEOGRAPHIC_TALLY_MARK_ONE dTWO dTHREE dFOUR dFIVE aTALLY_MARK_ONE cFIVE
    1D400 aMATHEMATICAL_BOLD_CAPITAL_A dB dC dD dE dF dG dH dI dJ dK dL dM dN dO dP dQ dR dS dT dU
    dV dW dX dY dZ cSMALL_A dB dC dD dE dF dG dH dI dJ dK dL dM dN dO dP dQ dR dS dT dU dV dW dX dY
    dZ bITALIC_CAPITAL_A dB dC dD dE dF dG dH dI dJ dK dL dM dN dO dP dQ dR dS dT dU dV dW dX dY dZ
    cSMALL_A dB dC dD dE dF dG 1D456 dI dJ dK dL dM dN dO dP dQ dR dS dT dU dV dW dX dY dZ
    bBOLD_ITALIC_CAPITAL_A eB eC eD eE eF eG eH eI eJ eK eL eM eN eO eP eQ eR eS eT eU eV eW eX eY
    eZ dSMALL_A eB eC eD eE eF eG eH eI eJ eK eL eM eN eO eP eQ eR eS eT eU eV eW eX eY eZ
    bSCRIPT_CAPITAL_A 1D49E dC dD 1D4A2 dG 1D4A5 dJ dK 1D4A9 dN dO dP dQ 1D4AE dS dT dU dV dW dX dY
    dZ cSMALL_A dB dC dD 1D4BB dF 1D4BD dH dI dJ dK dL dM dN 1D4C5 dP dQ dR dS dT dU dV dW dX dY dZ
    bBOLD_SCRIPT_CAPITAL_A eB eC eD eE eF eG eH eI eJ eK eL eM eN eO eP eQ eR eS eT eU eV eW eX eY
    eZ dSMALL_A eB eC eD eE eF eG eH eI eJ eK eL eM eN eO eP eQ eR eS eT eU eV eW eX eY eZ
    bFRAKTUR_CAPITAL_A dB 1D507 dD dE dF dG 1D50D dJ dK dL dM dN dO dP dQ 1D516 dS dT dU dV dW dX dY
    1D51E cSMALL_A dB dC dD dE dF dG dH dI dJ dK dL dM dN dO dP dQ dR dS dT dU dV dW dX dY dZ
    bDOUBLE-STRUCK_CAPITAL_A eB 1D53B eD eE eF eG 1D540 eI eJ eK eL eM 1D546 eO 1D54A eS eT eU eV eW
    eX eY 1D552 dSMALL_A eB eC eD eE eF eG eH eI eJ eK eL eM eN eO eP eQ eR eS eT eU eV eW eX eY eZ
    bBOLD_FRAKTUR_CAPITAL_A eB eC eD eE eF eG eH eI eJ eK eL eM eN eO eP eQ eR eS eT eU eV eW eX eY
    eZ dSMALL_A eB eC eD eE eF eG eH eI eJ eK eL eM eN eO eP eQ eR eS eT eU eV eW eX eY eZ
    bSANS-SERIF_CAPITAL_A eB eC eD eE eF eG eH eI eJ eK eL eM eN eO eP eQ eR eS eT eU eV eW eX eY eZ
    dSMALL_A eB eC eD eE eF eG eH eI eJ eK eL eM eN eO eP eQ eR eS eT eU eV eW eX eY eZ
    dBOLD_CAPITAL_A fB fC fD fE fF fG fH fI fJ fK fL fM fN fO fP fQ fR fS fT fU fV fW fX fY fZ
    eSMALL_A fB fC fD fE fF fG fH fI fJ fK fL fM fN fO fP fQ fR fS fT fU fV fW fX fY fZ
    dITALIC_CAPITAL_A fB fC fD fE fF fG fH fI fJ fK fL fM fN fO fP fQ fR fS fT fU fV fW fX fY fZ
    eSMALL_A fB fC fD fE fF fG fH fI fJ fK fL fM fN fO fP fQ fR fS fT fU fV fW fX fY fZ
    dBOLD_ITALIC_CAPITAL_A gB gC gD gE gF gG gH gI gJ gK gL gM gN gO gP gQ gR gS gT gU gV gW gX gY
    gZ fSMALL_A gB gC gD gE gF gG gH gI gJ gK gL gM gN gO gP gQ gR gS gT gU gV gW gX gY gZ
    bMONOSPACE_CAPITAL_A dB dC dD dE dF dG dH dI dJ dK dL dM dN dO dP dQ dR dS dT dU dV dW dX dY dZ
    cSMALL_A dB dC dD dE dF dG dH dI dJ dK dL dM dN dO dP dQ dR dS dT dU dV dW dX dY dZ
    bITALIC_SMALL_DOTLESS_I eJ 1D6A8 bBOLD_CAPITAL_ALPHA dBETA dGAMMA dDELTA dEPSILON dZETA dETA
    dTHETA dIOTA dKAPPA dLAMDA dMU dNU dXI dOMICRON dPI dRHO dTHETA_SYMBOL dSIGMA dTAU dUPSILON dPHI
    dCHI dPSI dOMEGA cNABLA cSMALL_ALPHA dBETA dGAMMA dDELTA dEPSILON dZETA dETA dTHETA dIOTA dKAPPA
    dLAMDA dMU dNU dXI dOMICRON dPI dRHO dFINAL_SIGMA db dTAU dUPSILON dPHI dCHI dPSI dOMEGA
    cPARTIAL_DIFFERENTIAL cEPSILON_SYMBOL cTHETA_b cKAPPA_b cPHI_b cRHO_b cPI_b
    bITALIC_CAPITAL_ALPHA dBETA dGAMMA dDELTA dEPSILON dZETA dETA dTHETA dIOTA dKAPPA dLAMDA dMU dNU
    dXI dOMICRON dPI dRHO dTHETA_SYMBOL dSIGMA dTAU dUPSILON dPHI dCHI dPSI dOMEGA cNABLA
    cSMALL_ALPHA dBETA dGAMMA dDELTA dEPSILON dZETA dETA dTHETA dIOTA dKAPPA dLAMDA dMU dNU dXI
    dOMICRON dPI dRHO dFINAL_SIGMA db dTAU dUPSILON dPHI dCHI dPSI dOMEGA cPARTIAL_DIFFERENTIAL
    cEPSILON_SYMBOL cTHETA_b cKAPPA_b cPHI_b cRHO_b cPI_b bBOLD_ITALIC_CAPITAL_ALPHA eBETA eGAMMA
    eDELTA eEPSILON eZETA eETA eTHETA eIOTA eKAPPA eLAMDA eMU eNU eXI eOMICRON ePI eRHO
    eTHETA_SYMBOL eSIGMA eTAU eUPSILON ePHI eCHI ePSI eOMEGA dNABLA dSMALL_ALPHA eBETA eGAMMA eDELTA
    eEPSILON eZETA eETA eTHETA eIOTA eKAPPA eLAMDA eMU eNU eXI eOMICRON ePI eRHO eFINAL_SIGMA eb
    eTAU eUPSILON ePHI eCHI ePSI eOMEGA dPARTIAL_DIFFERENTIAL dEPSILON_SYMBOL dTHETA_b dKAPPA_b
    dPHI_b dRHO_b dPI_b bSANS-SERIF_BOLD_CAPITAL_ALPHA fBETA fGAMMA fDELTA fEPSILON fZETA fETA
    fTHETA fIOTA fKAPPA fLAMDA fMU fNU fXI fOMICRON fPI fRHO fTHETA_SYMBOL fSIGMA fTAU fUPSILON fPHI
    fCHI fPSI fOMEGA eNABLA eSMALL_ALPHA fBETA fGAMMA fDELTA fEPSILON fZETA fETA fTHETA fIOTA fKAPPA
    fLAMDA fMU fNU fXI fOMICRON fPI fRHO fFINAL_SIGMA fb fTAU fUPSILON fPHI fCHI fPSI fOMEGA
    ePARTIAL_DIFFERENTIAL eEPSILON_SYMBOL eTHETA_b eKAPPA_b ePHI_b eRHO_b ePI_b
    eITALIC_CAPITAL_ALPHA gBETA gGAMMA gDELTA gEPSILON gZETA gETA gTHETA gIOTA gKAPPA gLAMDA gMU gNU
    gXI gOMICRON gPI gRHO gTHETA_SYMBOL gSIGMA gTAU gUPSILON gPHI gCHI gPSI gOMEGA fNABLA
    fSMALL_ALPHA gBETA gGAMMA gDELTA gEPSILON gZETA gETA gTHETA gIOTA gKAPPA gLAMDA gMU gNU gXI
    gOMICRON gPI gRHO gFINAL_SIGMA gb gTAU gUPSILON gPHI gCHI gPSI gOMEGA fPARTIAL_DIFFERENTIAL
    fEPSILON_SYMBOL fTHETA_b fKAPPA_b fPHI_b fRHO_b fPI_b bBOLD_CAPITAL_DIGAMMA cSMALL_b 1D7CE
    cDIGIT_ZERO dONE dTWO dTHREE dFOUR dFIVE dSIX dSEVEN dEIGHT dNINE bDOUBLE-STRUCK_DIGIT_ZERO eONE
    eTWO eTHREE eFOUR eFIVE eSIX eSEVEN eEIGHT eNINE bSANS-SERIF_DIGIT_ZERO eONE eTWO eTHREE eFOUR
    eFIVE eSIX eSEVEN eEIGHT eNINE dBOLD_DIGIT_ZERO fONE fTWO fTHREE fFOUR fFIVE fSIX fSEVEN fEIGHT
    fNINE bMONOSPACE_DIGIT_ZERO dONE dTWO dTHREE dFOUR dFIVE dSIX dSEVEN dEIGHT dNINE
    aSIGNWRITING_HAND-FIST_INDEX cCIRCLE_b cCUP_b cOVAL_b cHINGE_b cANGLE_b cFIST_INDEX_BENT
    cCIRCLE_c cFIST_THUMB_UNDER_c dINDEX_RAISED_KNUCKLE eCUPPED eHINGED eHINGED_LOW
    cCIRCLE_INDEX_HINGE cFIST_INDEX_MIDDLE cCIRCLE_c cFIST_INDEX_MIDDLE_BENT fRAISED_KNUCKLES
    fHINGED eUP_c eHINGED_MIDDLE_UP eMIDDLE_CONJOINED fCONJOINED_INDEX_BENT gMIDDLE_b gCUPPED
    gHINGED fCROSSED cCIRCLE_d cFIST_MIDDLE_BENT_OVER_INDEX dINDEX_BENT_OVER_MIDDLE eMIDDLE_THUMB
    cCIRCLE_d cFIST_INDEX_MIDDLE_STRAIGHT_THUMB_BENT fBENT_THUMB_STRAIGHT fTHUMB_BENT
    fHINGED_SPREAD_THUMB_SIDE eUP_MIDDLE_HINGED_c iCONJOINED eHINGED_MIDDLE_UP_THUMB_SIDE
    eMIDDLE_UP_SPREAD_THUMB_FORWARD fTHUMB_CUPPED gCIRCLED gHOOKED gHINGED
    dTHUMB_BETWEEN_INDEX_MIDDLE_STRAIGHT dINDEX_MIDDLE_CONJOINED_THUMB_SIDE hSIDE_CONJOINED iBENT
    dMIDDLE_THUMB_HOOKED_INDEX_UP dINDEX_THUMB_HOOKED_MIDDLE_b eMIDDLE_CONJOINED_HINGED_THUMB_SIDE
    fCROSSED_c fCONJOINED_THUMB_FORWARD gCUPPED_c dMIDDLE_THUMB_CUPPED_INDEX_UP
    dINDEX_THUMB_CUPPED_MIDDLE_b dMIDDLE_THUMB_CIRCLED_INDEX_b hHINGED
    dINDEX_THUMB_ANGLED_OUT_MIDDLE_UP gIN_c fCIRCLED_c eMIDDLE_THUMB_CONJOINED_HINGED gANGLED_OUT
    gANGLED dMIDDLE_THUMB_ANGLED_OUT_INDEX_UP iCROSSED gINDEX_UP dINDEX_THUMB_HOOKED_MIDDLE_HINGED
    cFLAT_FOUR_FINGERS eFINGERS_BENT fHINGED fCONJOINED fCONJOINED_SPLIT
    cCLAW_FOUR_FINGERS_CONJOINED cFIST_FOUR_FINGERS_CONJOINED_BENT cHINGE_FOUR_FINGERS_CONJOINED
    cFLAT_FIVE_FINGERS_SPREAD dHEEL_d dFIVE_FINGERS_SPREAD_FOUR_BENT dHEEL_f dFIVE_FINGERS_SPREAD_b
    dHEEL_e dFIVE_FINGERS_SPREAD_THUMB_FORWARD cCUP_FIVE_FINGERS_SPREAD fSPREAD_OPEN cHINGE_e
    cOVAL_FIVE_FINGERS_SPREAD cFLAT_FIVE_FINGERS_SPREAD_HINGED gHINGED_THUMB_SIDE hNO_THUMB cFLAT
    cFLAT_BETWEEN_PALM_FACINGS dHEEL dTHUMB_SIDE dHEEL_c dTHUMB_BENT eFORWARD
    dSPLIT_INDEX_THUMB_SIDE eCENTRE eCENTRE_THUMB_SIDE gSIDE_BENT eLITTLE cCLAW cCLAW_THUMB_SIDE
    dNO_THUMB dTHUMB_FORWARD cHOOK_CURLICUE cHOOK cCUP_OPEN cCUP cCUP_OPEN_THUMB_SIDE dc
    dOPEN_NO_THUMB dc dOPEN_THUMB_FORWARD dc cCURLICUE_OPEN cCURLICUE cCIRCLE cOVAL cOVAL_THUMB_SIDE
    dNO_THUMB dTHUMB_FORWARD cHINGE_OPEN dOPEN_THUMB_FORWARD cHINGE cHINGE_SMALL dOPEN_THUMB_SIDE dc
    dOPEN_NO_THUMB dc dTHUMB_SIDE_TOUCHING_INDEX eBETWEEN_MIDDLE_RING cANGLE cFIST_INDEX_MIDDLE_RING
    cCIRCLE_d cHINGE_d cANGLE_d cHINGE_LITTLE cFIST_INDEX_MIDDLE_RING_BENT gCONJOINED cHINGE_e
    cFIST_LITTLE_DOWN eDOWN_RIPPLE_STRAIGHT gCURVED fOTHERS_CIRCLED eUP dTHUMB_UNDER_c cCIRCLE_c
    cOVAL_c cANGLE_c cFIST_LITTLE_RAISED_KNUCKLE eBENT eTOUCHES_THUMB eb cHINGE_c
    cFIST_LITTLE_INDEX_b cHINGE_d cANGLE_LITTLE_INDEX_THUMB_INDEX_THUMB_OUT hTHUMB
    cFIST_LITTLE_INDEX cCIRCLE_c cHINGE_c cANGLE_c cFIST_INDEX_MIDDLE_LITTLE cCIRCLE_d cHINGE_d
    dRING cANGLE_INDEX_MIDDLE_LITTLE cFIST_INDEX_MIDDLE_CROSS_b cCIRCLE_e cFIST_RING_DOWN
    cHINGE_RING_DOWN_INDEX_THUMB_HOOK_MIDDLE cANGLE_RING_DOWN_MIDDLE_THUMB_INDEX_CROSS cFIST_RING_UP
    eRAISED_KNUCKLE eLITTLE cCIRCLE_c cOVAL_c cANGLE_c cFIST_RING_MIDDLE eMIDDLE_CONJOINED
    fRAISED_KNUCKLES eINDEX eTHUMB cHOOK_c cFIST_INDEX_RING_LITTLE cCIRCLE_d
    cCURLICUE_INDEX_RING_LITTLE_ON cHOOK_INDEX_RING_LITTLE_OUT gIN gUNDER cCUP_INDEX_RING_LITTLE
    cHINGE_d cANGLE_INDEX_RING_LITTLE_OUT fLITTLE cFIST_MIDDLE_DOWN cHINGE_MIDDLE cFIST_MIDDLE_UP
    cCIRCLE_c cFIST_MIDDLE_RAISED_KNUCKLE eUP_THUMB_SIDE cHOOK_MIDDLE_THUMB
    cFIST_MIDDLE_THUMB_LITTLE eb eRING_b cCIRCLE_d cCURLICUE_MIDDLE_RING_LITTLE_ON
    cCUP_MIDDLE_RING_LITTLE cHINGE_d cANGLE_MIDDLE_RING_LITTLE_OUT gIN fLITTLE
    cCIRCLE_MIDDLE_RING_LITTLE_BENT cCLAW_MIDDLE_RING_LITTLE_CONJOINED gCONJOINED_SIDE
    cHOOK_MIDDLE_RING_LITTLE_CONJOINED_OUT hIN gCONJOINED cHINGE_INDEX_HINGED cFIST_INDEX_THUMB_SIDE
    cHINGE_d cFIST_INDEX_THUMB_SIDE_THUMB_DIAGONAL hCONJOINED hBENT gINDEX_b gBOTH_b gINDEX_HINGE
    fFORWARD_INDEX_STRAIGHT hBENT fHOOK fCURLICUE fCURVE_THUMB_INSIDE cCLAW_f
    cFIST_INDEX_THUMB_CURVE_THUMB_UNDER fCIRCLE cCUP_INDEX_THUMB eTHUMB_OPEN cHINGE_d fLARGE eTHUMB
    eTHUMB_SMALL cANGLE_INDEX_THUMB_OUT fIN eTHUMB cFIST_b dTHUMB_HEEL eSIDE_DIAGONAL fCONJOINED
    fBENT eFORWARD eBETWEEN_INDEX_MIDDLE fMIDDLE_RING fRING_LITTLE eUNDER_TWO_FINGERS eOVER_c
    eUNDER_THREE_b fFOUR_b eOVER_FOUR_RAISED_KNUCKLES cFIST cFIST_HEEL bTOUCH_SINGLE cMULTIPLE
    cBETWEEN bGRASP_SINGLE cMULTIPLE cBETWEEN bSTRIKE_SINGLE cMULTIPLE cBETWEEN bBRUSH_SINGLE
    cMULTIPLE cBETWEEN bRUB_SINGLE cMULTIPLE cBETWEEN bSURFACE_SYMBOLS cBETWEEN
    bSQUEEZE_LARGE_SINGLE cSMALL_b cLARGE_MULTIPLE cSMALL_b cSEQUENTIAL bFLICK_LARGE_SINGLE cSMALL_b
    cLARGE_MULTIPLE cSMALL_b cSEQUENTIAL bSQUEEZE_FLICK_ALTERNATING bMOVEMENT-HINGE_UP_DOWN_LARGE
    fSMALL eSEQUENTIAL dDOWN_b dUP_DOWN_ALTERNATING_LARGE gSMALL dSIDE_TO_SIDE_SCISSORS
    cWALLPLANE_FINGER_CONTACT cFLOORPLANE_c cWALLPLANE_SINGLE_STRAIGHT_SMALL fMEDIUM fLARGE fLARGEST
    eWRIST_FLEX dDOUBLE_STRAIGHT eWRIST_FLEX eALTERNATING eALTERNATING_WRIST_FLEX dCROSS
    dTRIPLE_STRAIGHT_MOVEMENT eWRIST_FLEX eALTERNATING eALTERNATING_WRIST_FLEX dBEND_SMALL eMEDIUM
    eLARGE dCORNER_SMALL eMEDIUM eLARGE eROTATION dCHECK_SMALL eMEDIUM eLARGE dBOX_SMALL eMEDIUM
    eLARGE dZIGZAG_SMALL eMEDIUM eLARGE dPEAKS_SMALL eMEDIUM eLARGE
    bTRAVEL-WALLPLANE_ROTATION-WALLPLANE_SINGLE fDOUBLE fALTERNATING eFLOORPLANE_SINGLE fDOUBLE
    fALTERNATING dSHAKING dARM_SPIRAL_SINGLE fDOUBLE fTRIPLE bMOVEMENT-DIAGONAL_AWAY_SMALL eMEDIUM
    eLARGE eLARGEST dTOWARDS_SMALL eMEDIUM eLARGE eLARGEST dBETWEEN_AWAY_SMALL fMEDIUM fLARGE
    fLARGEST eTOWARDS_SMALL fMEDIUM fLARGE fLARGEST cFLOORPLANE_SINGLE_STRAIGHT_SMALL fMEDIUM fLARGE
    fLARGEST eWRIST_FLEX dDOUBLE_STRAIGHT eWRIST_FLEX eALTERNATING eALTERNATING_WRIST_FLEX dCROSS
    dTRIPLE_STRAIGHT_MOVEMENT eWRIST_FLEX eALTERNATING_MOVEMENT fWRIST_FLEX dBEND dCORNER_SMALL
    eMEDIUM eLARGE dCHECK dBOX_SMALL eMEDIUM eLARGE dZIGZAG_SMALL eMEDIUM eLARGE dPEAKS_SMALL
    eMEDIUM eLARGE bTRAVEL-FLOORPLANE_ROTATION-FLOORPLANE_SINGLE fDOUBLE fALTERNATING
    eWALLPLANE_SINGLE fDOUBLE fALTERNATING dSHAKING bMOVEMENT-WALLPLANE_CURVE_QUARTER_SMALL fMEDIUM
    fLARGE fLARGEST eHALF-CIRCLE_SMALL gMEDIUM gLARGE gLARGEST eTHREE-QUARTER_CIRCLE_SMALL hMEDIUM
    dHUMP_SMALL eMEDIUM eLARGE dLOOP_SMALL eMEDIUM eLARGE eSMALL_DOUBLE dWAVE_CURVE_DOUBLE_SMALL
    gMEDIUM gLARGE fTRIPLE_SMALL gMEDIUM gLARGE dCURVE_THEN_STRAIGHT dCURVED_CROSS_SMALL fMEDIUM
    bROTATION-WALLPLANE_SINGLE dDOUBLE dALTERNATE bMOVEMENT-WALLPLANE_SHAKING
    dCURVE_HITTING_FRONT_WALL dHUMP_d dLOOP_d dWAVE_d bROTATION-WALLPLANE_SINGLE_d dDOUBLE_d
    dALTERNATING_d bMOVEMENT-WALLPLANE_CURVE_HITTING_CHEST dHUMP_c dLOOP_c dWAVE_c
    bROTATION-WALLPLANE_SINGLE_c dDOUBLE_c dALTERNATING_c
    bMOVEMENT-WALLPLANE_WAVE_DIAGONAL_PATH_SMALL gMEDIUM gLARGE
    cFLOORPLANE_CURVE_HITTING_CEILING_SMALL gLARGE dHUMP_HITTING_CEILING_SMALL_DOUBLE gLARGE_b
    gSMALL_TRIPLE gLARGE_b dLOOP_HITTING_CEILING_SMALL_SINGLE gLARGE_b gSMALL_DOUBLE gLARGE_b
    dWAVE_HITTING_CEILING_SMALL gLARGE bROTATION-FLOORPLANE_SINGLE_HITTING_CEILING dDOUBLE_c
    dALTERNATING_c bMOVEMENT-FLOORPLANE_CURVE_HITTING_FLOOR_SMALL gLARGE
    dHUMP_HITTING_FLOOR_SMALL_DOUBLE gLARGE_b gTRIPLE_SMALL_TRIPLE hLARGE_b
    dLOOP_HITTING_FLOOR_SMALL_SINGLE gLARGE_b gSMALL_DOUBLE gLARGE_b dWAVE_HITTING_FLOOR_SMALL
    gLARGE bROTATION-FLOORPLANE_SINGLE_HITTING_FLOOR dDOUBLE_c dALTERNATING_c
    bMOVEMENT-FLOORPLANE_CURVE_SMALL eMEDIUM eLARGE eLARGEST eCOMBINED dHUMP_SMALL dLOOP_b
    dWAVE_SNAKE eSMALL eLARGE bROTATION-FLOORPLANE_SINGLE dDOUBLE dALTERNATING
    bMOVEMENT-FLOORPLANE_SHAKING_PARALLEL cWALLPLANE_ARM_CIRCLE_SMALL_SINGLE fMEDIUM_b fSMALL_DOUBLE
    fMEDIUM_b cFLOORPLANE_ARM_CIRCLE_HITTING_WALL_SMALL_SINGLE hMEDIUM_b hLARGE_b hSMALL_DOUBLE
    hMEDIUM_b hLARGE_b cWALLPLANE_WRIST_CIRCLE_FRONT_SINGLE gDOUBLE
    cFLOORPLANE_WRIST_CIRCLE_HITTING_WALL_SINGLE hDOUBLE cWALLPLANE_FINGER_CIRCLES_SINGLE fDOUBLE
    cFLOORPLANE_FINGER_CIRCLES_HITTING_WALL_SINGLE hDOUBLE bDYNAMIC_ARROWHEAD_SMALL dLARGE cFAST
    cSLOW cTENSE cRELAXED cSIMULTANEOUS cSIMULTANEOUS_ALTERNATING cEVERY_OTHER_TIME cGRADUAL bHEAD
    bHEAD_RIM cMOVEMENT-WALLPLANE_STRAIGHT eTILT dFLOORPLANE_STRAIGHT dWALLPLANE_CURVE dFLOORPLANE_b
    cMOVEMENT_CIRCLE bFACE_DIRECTION_POSITION_NOSE_FORWARD_TILTING fUP_OR_DOWN hDOWN_TILTING
    bEYEBROWS_STRAIGHT_UP dNEUTRAL dDOWN bDREAMY_EYEBROWS_NEUTRAL_b dDOWN_NEUTRAL dUP_b dNEUTRAL_UP
    bFOREHEAD_NEUTRAL cCONTACT cWRINKLED bEYES_OPEN cSQUEEZED cCLOSED bEYE_BLINK_SINGLE dMULTIPLE
    bEYES_HALF_OPEN cWIDE_b cHALF_CLOSED cWIDENING_MOVEMENT bEYE_WINK bEYELASHES_UP cDOWN
    cFLUTTERING bEYEGAZE-WALLPLANE_STRAIGHT dSTRAIGHT_DOUBLE eALTERNATING cFLOORPLANE_STRAIGHT
    dSTRAIGHT_DOUBLE eALTERNATING cWALLPLANE_CURVED cFLOORPLANE_b cWALLPLANE_CIRCLING bCHEEKS_PUFFED
    cNEUTRAL cSUCKED bTENSE_CHEEKS_HIGH dMIDDLE dLOW bEARS bNOSE_NEUTRAL cCONTACT cWRINKLES cWIGGLES
    bAIR_BLOWING_OUT cSUCKING_IN cBLOW_SMALL_ROTATIONS cSUCK_c bBREATH_INHALE cEXHALE
    bMOUTH_CLOSED_NEUTRAL dFORWARD dCONTACT cSMILE cSMILE_WRINKLED dOPEN cFROWN cFROWN_WRINKLED
    dOPEN cOPEN_CIRCLE dFORWARD dWRINKLED dOVAL dOVAL_WRINKLED eYAWN dRECTANGLE dRECTANGLE_WRINKLED
    eYAWN cKISS cKISS_FORWARD dWRINKLED cTENSE cTENSE_FORWARD dSUCKED bLIPS_PRESSED_TOGETHER
    bLIP_LOWER_OVER_UPPER cUPPER_OVER_LOWER bMOUTH_CORNERS cWRINKLES_SINGLE dDOUBLE
    bTONGUE_STICKING_OUT_FAR cLICKING_LIPS cTIP_BETWEEN_b dTOUCHING_INSIDE_MOUTH
    cINSIDE_MOUTH_RELAXED cMOVES_AGAINST_CHEEK cCENTRE_STICKING_OUT dINSIDE_MOUTH bTEETH
    bTEETH_MOVEMENT cON_TONGUE dTONGUE_MOVEMENT dLIPS dLIPS_MOVEMENT cBITE_LIPS
    bMOVEMENT-WALLPLANE_JAW cFLOORPLANE_b bNECK bHAIR bEXCITEMENT bSHOULDER_HIP_SPINE dPOSITIONS
    bWALLPLANE_SHOULDER_HIP_MOVE bFLOORPLANE_d bSHOULDER_TILTING_FROM_WAIST
    bTORSO-WALLPLANE_STRAIGHT_STRETCH dCURVED_BEND cFLOORPLANE_TWISTING
    bUPPER_BODY_TILTING_FROM_HIP_JOINTS bLIMB_COMBINATION cLENGTH-1 d2 d3 d4 d5 d6 d7 bFINGER
    bLOCATION-WALLPLANE_SPACE cFLOORPLANE_b bLOCATION_HEIGHT cWIDTH cDEPTH cHEAD_NECK cTORSO
    cLIMBS_DIGITS bCOMMA bFULL_STOP bSEMICOLON bCOLON bPARENTHESIS 1DA9B bFILL_MODIFIER-2 d3 d4 d5
    d6 1DAA1 bROTATION_MODIFIER-2 d3 d4 d5 d6 d7 d8 d9 d10 d11 d12 d13 d14 d15 d16 1DF00
    aLATIN_SMALL_LETTER_FENG_DIGRAPH_WITH_TRILL dREVERSED_SCRIPT_G bLETTER_SMALL_CAPITAL_TURNED_b
    bSMALL_LETTER_REVERSED_K bLETTER_SMALL_CAPITAL_L_WITH_BELT
    bSMALL_LETTER_LEZH_WITH_RETROFLEX_HOOK dTURNED_Y_WITH_BELT dREVERSED_ENG
    dTURNED_R_WITH_LONG_LEG_AND_RETROFLEX_HOOK dT_WITH_HOOK_d bLETTER_RETROFLEX_CLICK_WITH_c
    bSMALL_LETTER_ESH_WITH_DOUBLE_BAR gBAR_AND_CURL dTURNED_T_WITH_b bLETTER_INVERTED_GLOTTAL_STOP_c
    cSTRETCHED_C_c cSMALL_CAPITAL_TURNED_K bSMALL_LETTER_L_WITH_FISHHOOK
    dDEZH_DIGRAPH_WITH_PALATAL_HOOK dL_WITH_BELT_AND_c dENG_WITH_c dTURNED_R_d
    dR_WITH_FISHHOOK_AND_c dTESH_DIGRAPH_WITH_c dEZH_d dDEZH_DIGRAPH_WITH_RETROFLEX_b
    dI_WITH_STROKE_AND_c dO_WITH_c dTESH_DIGRAPH_d dC_d dS_WITH_CURL 1E000
    aCOMBINING_GLAGOLITIC_LETTER_AZU dBUKY dVEDE dGLAGOLI dDOBRO dYESTU dZHIVETE 1E008 dZEMLJA dIZHE
    dINITIAL_b dI dDJERVI dKAKO dLJUDIJE dMYSLITE dNASHI dONU dPOKOJI dRITSI dSLOVO dTVRIDO dUKU
    dFRITU dHERU 1E01B dSHTA dTSI dCHRIVI dSHA dYERU dYERI dYATI 1E023 dYU dSMALL_YUS 1E026 dYO
    dIOTATED_SMALL_YUS dBIG_b dIOTATED_c dFITA 1E100 aNYIAKENG_PUACHUE_HMONG_LETTER_MA eTSA eNTA eTA
    eHA eNA eXA eNKA eCA eLA eSA eZA eNCA eNTSA eKA eDA eNYA eNRA eVA eNTXA eTXA eFA eRA eQA eYA
    eNQA ePA eXYA eNPA eDLA eNPLA eHAH eMLA ePLA eGA eRRA eA eAA eI eU eO eOO eE eEE eW 1E130
    dTONE-B eM eJ eV eS eG eD dSIGN_FOR_PERSON fTHING fLOCATION fANIMAL fINVERTEBRATE eXW_XW
    dSYLLABLE_LENGTHENER 1E140 dDIGIT_ZERO eONE eTWO eTHREE eFOUR eFIVE eSIX eSEVEN eEIGHT eNINE
    1E14E dLOGOGRAM_NYAJ dCIRCLED_CA 1E290 aTOTO_LETTER_PA cBA cTA cDA cKA cGA cMA cNA cNGA cSA cCHA
    cYA cWA cJA cHA cRA cLA cI cBREATHY_b cIU cBREATHY_b cU cE cBREATHY_b cEO cBREATHY_b cO cAE
    cBREATHY_b cA bSIGN_RISING_TONE 1E2C0 aWANCHO_LETTER_AA cA cBA cCA cDA cGA cYA cPHA cLA cNA cPA
    cTA cTHA cFA cSA cSHA cJA cZA cWA cVA cKA cO cAU cRA cMA cKHA cHA cE cI cNGA cU cLLHA cTSA cTRA
    cONG cAANG cANG cING cON cEN cAAN cNYA cUEN cYIH bTONE_TUP cTUPNI cKOI cKOINI bDIGIT_ZERO cONE
    cTWO cTHREE cFOUR cFIVE cSIX cSEVEN cEIGHT cNINE 1E2FF bNGUN_SIGN 1E7E0 aETHIOPIC_SYLLABLE_HHYA
    cHHYU cHHYI cHHYAA cHHYEE cHHYE cHHYO 1E7E8 cGURAGE_HHWA cHHWI cHHWEE cHHWE 1E7ED cGURAGE_MWI
    dMWEE 1E7F0 dQWI dQWEE dQWE dBWI dBWEE dKWI dKWEE dKWE dGWI dGWEE dGWE dFWI dFWEE dPWI dPWEE
    1E800 aMENDE_KIKAKUI_SYLLABLE_M001_KI dM002_KA dM003_KU dM065_KEE dM095_KE dM076_KOO dM048_KO
    dM179_KUA dM004_WI dM005_WA dM006_WU dM126_WEE dM118_WE dM114_WOO dM045_WO dM194_WUI dM143_WEI
    dM061_WVI dM049_WVA dM139_WVE dM007_MIN dM008_MAN dM009_MUN dM059_MEN dM094_MON dM154_MUAN
    dM189_MUEN dM010_BI dM011_BA dM012_BU dM150_BEE dM097_BE dM103_BOO dM138_BO dM013_I dM014_A
    dM015_U dM163_EE dM100_E dM165_OO dM147_O dM137_EI dM131_IN dM135_b dM195_AN dM178_EN dM019_SI
    dM020_SA dM021_SU dM162_SEE dM116_SE dM136_SOO dM079_SO dM196_SIA dM025_LI dM026_LA dM027_LU
    dM084_LEE dM073_LE dM054_LOO dM153_LO dM110_LONG_LE dM016_DI dM017_DA dM018_DU dM089_DEE
    dM180_DOO dM181_DO dM022_TI dM023_TA dM024_TU dM091_TEE dM055_TE dM104_TOO dM069_TO dM028_JI
    dM029_JA dM030_JU dM157_JEE dM113_JE dM160_JOO dM063_JO dM175_LONG_b dM031_YI dM032_YA dM033_YU
    dM109_YEE dM080_YE dM141_YOO dM121_YO dM034_FI dM035_FA dM036_FU dM078_FEE dM075_FE dM133_FOO
    dM088_FO dM197_FUA dM101_FAN dM037_NIN dM038_NAN dM039_NUN dM117_NEN dM169_NON dM176_HI dM041_HA
    dM186_HU dM040_HEE dM096_HE dM042_HOO dM140_HO dM083_HEEI dM128_HOOU dM053_HIN dM130_HAN
    dM087_HUN dM052_HEN dM193_HON dM046_HUAN dM090_NGGI dM043_NGGA dM082_NGGU dM115_NGGEE dM146_NGGE
    dM156_NGGOO dM120_NGGO dM159_NGGAA dM127_NGGUA dM086_LONG_NGGE dM106_LONG_NGGOO dM183_LONG_NGGO
    dM155_GI dM111_GA dM168_GU dM190_GEE dM166_GUEI dM167_GUAN dM184_NGEN dM057_NGON dM177_NGUAN
    dM068_PI dM099_PA dM050_PU dM081_PEE dM051_PE dM102_POO dM066_PO dM145_MBI dM062_MBA dM122_MBU
    dM047_MBEE dM188_b dM072_MBE dM172_MBOO dM174_MBO dM187_MBUU dM161_LONG_MBE dM105_LONG_MBOO
    dM142_LONG_MBO dM132_KPI dM092_KPA dM074_KPU dM044_KPEE dM108_KPE dM112_KPOO dM158_KPO dM124_GBI
    dM056_GBA dM148_GBU dM093_GBEE dM107_GBE dM071_GBOO dM070_GBO dM171_RA dM123_NDI dM129_NDA
    dM125_NDU dM191_NDEE dM119_NDE dM067_NDOO dM064_NDO dM152_NJA dM192_NJU dM149_NJEE dM134_NJOO
    dM182_VI dM185_VA dM151_VU dM173_VEE dM085_VE dM144_VOO dM077_VO dM164_NYIN dM058_NYAN
    dM170_NYUN dM098_NYEN dM060_NYON 1E8C7 cDIGIT_ONE dTWO dTHREE dFOUR dFIVE dSIX dSEVEN dEIGHT
    dNINE cCOMBINING_NUMBER_TEENS eTENS eHUNDREDS eTHOUSANDS eTEN_b eHUNDRED_b eMILLIONS 1E900
    aADLAM_CAPITAL_LETTER_ALIF dDAALI dLAAM dMIIM dBA dSINNYIIYHE dPE dBHE dRA dE dFA dI dO dDHA
    dYHE dWAW dNUN dKAF dYA dU dJIIM dCHI dHA dQAAF dGA dNYA dTU dNHA dVA dKHA dGBE dZAL dKPO dSHA
    bSMALL_LETTER_ALIF dDAALI dLAAM dMIIM dBA dSINNYIIYHE dPE dBHE dRA dE dFA dI dO dDHA dYHE dWAW
    dNUN dKAF dYA dU dJIIM dCHI dHA dQAAF dGA dNYA dTU dNHA dVA dKHA dGBE dZAL dKPO dSHA
    bALIF_LENGTHENER bVOWEL_b bGEMINATION_MARK bHAMZA bCONSONANT_MODIFIER bGEMINATE_c bNUKTA
    bNASALIZATION_MARK 1E950 bDIGIT_ZERO cONE cTWO cTHREE cFOUR cFIVE cSIX cSEVEN cEIGHT cNINE 1E95E
    bINITIAL_EXCLAMATION_MARK cQUESTION_b 1EC71 aINDIC_SIYAQ_NUMBER_ONE dTWO dTHREE dFOUR dFIVE dSIX
    dSEVEN dEIGHT dNINE dTEN dTWENTY dTHIRTY dFORTY dFIFTY dSIXTY dSEVENTY dEIGHTY dNINETY
    dONE_HUNDRED dTWO_b dTHREE_b dFOUR_b dFIVE_b dSIX_b dSEVEN_b dEIGHT_b dNINE_b dONE_THOUSAND
    dTWO_b dTHREE_b dFOUR_b dFIVE_b dSIX_b dSEVEN_b dEIGHT_b dNINE_b dTEN_b dTWENTY_b dTHIRTY_b
    dFORTY_b dFIFTY_b dSIXTY_b dSEVENTY_b dEIGHTY_b dNINETY_b dLAKH dLAKHAN cLAKH_MARK cNUMBER_KAROR
    dKARORAN dPREFIXED_ONE eTWO eTHREE eFOUR eFIVE eSIX eSEVEN eEIGHT eNINE cPLACEHOLDER
    cFRACTION_ONE_QUARTER eHALF dTHREE_QUARTERS cRUPEE_MARK cNUMBER_ALTERNATE_ONE eTWO eTEN_THOUSAND
    cALTERNATE_LAKH_MARK 1ED01 aOTTOMAN_SIYAQ_NUMBER_ONE dTWO dTHREE dFOUR dFIVE dSIX dSEVEN dEIGHT
    dNINE dTEN dTWENTY dTHIRTY dFORTY dFIFTY dSIXTY dSEVENTY dEIGHTY dNINETY dONE_HUNDRED dTWO_b
    dTHREE_b dFOUR_b dFIVE_b dSIX_b dSEVEN_b dEIGHT_b dNINE_b dONE_THOUSAND dTWO_b dTHREE_b dFOUR_b
    dFIVE_b dSIX_b dSEVEN_b dEIGHT_b dNINE_b dTEN_b dTWENTY_b dTHIRTY_b dFORTY_b dFIFTY_b dSIXTY_b
    dSEVENTY_b dEIGHTY_b dNINETY_b cMARRATAN cALTERNATE_NUMBER_TWO eTHREE eFOUR eFIVE eSIX eSEVEN
    eEIGHT eNINE eTEN eFOUR_HUNDRED eSIX_b eTWO_THOUSAND eTEN_b cFRACTION_ONE_HALF eSIXTH 1EE00
    aARABIC_MATHEMATICAL_ALEF cBEH cJEEM cDAL 1EE05 cWAW cZAIN cHAH cTAH cYEH cKAF cLAM cMEEM cNOON
    cSEEN cAIN cFEH cSAD cQAF cREH cSHEEN cTEH cTHEH cKHAH cTHAL cDAD cZAH cGHAIN cDOTLESS_BEH dNOON
    dFEH dQAF 1EE21 cINITIAL_BEH dJEEM 1EE24 dHEH 1EE27 dHAH 1EE29 dYEH dKAF dLAM dMEEM dNOON dSEEN
    dAIN dFEH dSAD dQAF 1EE34 dSHEEN dTEH dTHEH dKHAH 1EE39 dDAD 1EE3B dGHAIN 1EE42 cTAILED_JEEM
    1EE47 dHAH 1EE49 dYEH 1EE4B dLAM 1EE4D dNOON dSEEN dAIN 1EE51 dSAD dQAF 1EE54 dSHEEN 1EE57 dKHAH
    1EE59 dDAD 1EE5B dGHAIN 1EE5D dDOTLESS_NOON 1EE5F eQAF 1EE61 cSTRETCHED_BEH dJEEM 1EE64 dHEH
    1EE67 dHAH dTAH dYEH dKAF 1EE6C dMEEM dNOON dSEEN dAIN dFEH dSAD dQAF 1EE74 dSHEEN dTEH dTHEH
    dKHAH 1EE79 dDAD dZAH dGHAIN dDOTLESS_BEH 1EE7E eFEH 1EE80 cLOOPED_ALEF dBEH dJEEM dDAL dHEH
    dWAW dZAIN dHAH dTAH dYEH 1EE8B dLAM dMEEM dNOON dSEEN dAIN dFEH dSAD dQAF dREH dSHEEN dTEH
    dTHEH dKHAH dTHAL dDAD dZAH dGHAIN 1EEA1 cDOUBLE-STRUCK_BEH eJEEM eDAL 1EEA5 eWAW eZAIN eHAH
    eTAH eYEH 1EEAB eLAM eMEEM eNOON eSEEN eAIN eFEH eSAD eQAF eREH eSHEEN eTEH eTHEH eKHAH eTHAL
    eDAD eZAH eGHAIN 1EEF0 cOPERATOR_MEEM_WITH_HAH_WITH_TATWEEL dHAH_WITH_DAL 1F000
    aMAHJONG_TILE_EAST_WIND cSOUTH_b cWEST_b cNORTH_b cRED_DRAGON cGREEN_b cWHITE_b
    cONE_OF_CHARACTERS cTWO_c cTHREE_c cFOUR_c cFIVE_c cSIX_c cSEVEN_c cEIGHT_c cNINE_c
    cONE_OF_BAMBOOS cTWO_c cTHREE_c cFOUR_c cFIVE_c cSIX_c cSEVEN_c cEIGHT_c cNINE_c cONE_OF_CIRCLES
    cTWO_c cTHREE_c cFOUR_c cFIVE_c cSIX_c cSEVEN_c cEIGHT_c cNINE_c cPLUM cORCHID cBAMBOO
    cCHRYSANTHEMUM cSPRING cSUMMER cAUTUMN cWINTER cJOKER cBACK 1F030 aDOMINO_TILE_HORIZONTAL_b
    cHORIZONTAL-00-00 e01 e02 e03 e04 e05 e06 d01-00 e01 e02 e03 e04 e05 e06 d02-00 e01 e02 e03 e04
    e05 e06 d03-00 e01 e02 e03 e04 e05 e06 d04-00 e01 e02 e03 e04 e05 e06 d05-00 e01 e02 e03 e04 e05
    e06 d06-00 e01 e02 e03 e04 e05 e06 cVERTICAL_BACK cVERTICAL-00-00 e01 e02 e03 e04 e05 e06 d01-00
    e01 e02 e03 e04 e05 e06 d02-00 e01 e02 e03 e04 e05 e06 d03-00 e01 e02 e03 e04 e05 e06 d04-00 e01
    e02 e03 e04 e05 e06 d05-00 e01 e02 e03 e04 e05 e06 d06-00 e01 e02 e03 e04 e05 e06 1F0A0
    aPLAYING_CARD_BACK cACE_OF_SPADES cTWO_c cTHREE_c cFOUR_c cFIVE_c cSIX_c cSEVEN_c cEIGHT_c
    cNINE_c cTEN_c cJACK_c cKNIGHT_c cQUEEN_c cKING_c 1F0B1 cACE_OF_HEARTS cTWO_c cTHREE_c cFOUR_c
    cFIVE_c cSIX_c cSEVEN_c cEIGHT_c cNINE_c cTEN_c cJACK_c cKNIGHT_c cQUEEN_c cKING_c cRED_JOKER
    1F0C1 cACE_OF_DIAMONDS cTWO_c cTHREE_c cFOUR_c cFIVE_c cSIX_c cSEVEN_c cEIGHT_c cNINE_c cTEN_c
    cJACK_c cKNIGHT_c cQUEEN_c cKING_c cBLACK_JOKER 1F0D1 cACE_OF_CLUBS cTWO_c cTHREE_c cFOUR_c
    cFIVE_c cSIX_c cSEVEN_c cEIGHT_c cNINE_c cTEN_c cJACK_c cKNIGHT_c cQUEEN_c cKING_c cWHITE_JOKER
    cFOOL cTRUMP-1 d2 d3 d4 d5 d6 d7 d8 d9 d10 d11 d12 d13 d14 d15 d16 d17 d18 d19 d20 d21 1F100
    aDIGIT_ZERO_FULL_STOP cCOMMA bONE_b bTWO_b bTHREE_b bFOUR_b bFIVE_b bSIX_b bSEVEN_b bEIGHT_b
    bNINE_b aDINGBAT_CIRCLED_SANS-SERIF_DIGIT_ZERO bNEGATIVE_f aCIRCLED_ZERO_WITH_SLASH
    bANTICLOCKWISE_ARROW bDOLLAR_SIGN_WITH_OVERLAID_BACKSLASH aPARENTHESIZED_LATIN_CAPITAL_LETTER_A
    eB eC eD eE eF eG eH eI eJ eK eL eM eN eO eP eQ eR eS eT eU eV eW eX eY eZ
    aTORTOISE_SHELL_BRACKETED_LATIN_CAPITAL_LETTER_S aCIRCLED_ITALIC_LATIN_CAPITAL_LETTER_C fR bCD
    bWZ aCOPYLEFT_SYMBOL aSQUARED_LATIN_CAPITAL_LETTER_A eB eC eD eE eF eG eH eI eJ eK eL eM eN eO
    eP eQ eR eS eT eU eV eW eX eY eZ bHV bMV bSD bSS bPPV bWC
    aNEGATIVE_CIRCLED_LATIN_CAPITAL_LETTER_A fB fC fD fE fF fG fH fI fJ fK fL fM fN fO fP fQ fR fS
    fT fU fV fW fX fY fZ aRAISED_MC_SIGN bMD_b bMR_b aCIRCLED_CC bC_WITH_OVERLAID_BACKSLASH
    bHUMAN_FIGURE aNEGATIVE_SQUARED_LATIN_CAPITAL_LETTER_A fB fC fD fE fF fG fH fI fJ fK fL fM fN fO
    fP fQ fR fS fT fU fV fW fX fY fZ aCROSSED_NEGATIVE_SQUARED_LATIN_CAPITAL_LETTER_P
    aNEGATIVE_SQUARED_IC cPA cSA cAB cWC aSQUARE_DJ aSQUARED_CL bCOOL bFREE bID bNEW bNG bOK bSOS
    bUP_WITH_EXCLAMATION_MARK bVS bTHREE_D bSECOND_SCREEN bTWO_K bFOUR_b bEIGHT_b bFIVE_POINT_ONE
    bSEVEN_c bTWENTY-TWO_POINT_TWO bSIXTY_P bONE_HUNDRED_TWENTY_b bLATIN_SMALL_LETTER_D bHC bHDR
    bHI-RES bLOSSLESS bSHV bUHD bVOD aMASK_WORK_SYMBOL 1F1E6 aREGIONAL_INDICATOR_SYMBOL_LETTER_A eB
    eC eD eE eF eG eH eI eJ eK eL eM eN eO eP eQ eR eS eT eU eV eW eX eY eZ aSQUARE_HIRAGANA_HOKA
    aSQUARED_KATAKANA_KOKO cSA 1F210 bCJK_UNIFIED_IDEOGRAPH-624B e5B57 e53CC bKATAKANA_DE
    bCJK_UNIFIED_IDEOGRAPH-4E8C e591A e89E3 e5929 e4EA4 e6620 e7121 e6599 e524D e5F8C e518D e65B0
    e521D e7D42 e751F e8CA9 e58F0 e5439 e6F14 e6295 e6355 e4E00 e4E09 e904A e5DE6 e4E2D e53F3 e6307
    e8D70 e6253 e7981 e7A7A e5408 e6E80 e6709 e6708 e7533 e5272 e55B6 e914D 1F240
    aTORTOISE_SHELL_BRACKETED_CJK_UNIFIED_IDEOGRAPH-672C g4E09 g4E8C g5B89 g70B9 g6253 g76D7 g52DD
    g6557 1F250 aCIRCLED_IDEOGRAPH_ADVANTAGE cACCEPT 1F260 aROUNDED_SYMBOL_FOR_FU dLU dSHOU dXI
    dSHUANGXI dCAI 1F300 aCYCLONE aFOGGY aCLOSED_UMBRELLA aNIGHT_WITH_STARS aSUNRISE_OVER_MOUNTAINS
    aSUNRISE aCITYSCAPE_AT_DUSK aSUNSET_OVER_BUILDINGS aRAINBOW aBRIDGE_AT_NIGHT aWATER_WAVE
    aVOLCANO aMILKY_WAY aEARTH_GLOBE_EUROPE-AFRICA cAMERICAS cASIA-AUSTRALIA aGLOBE_WITH_MERIDIANS
    aNEW_MOON_SYMBOL aWAXING_CRESCENT_c aFIRST_QUARTER_c aWAXING_GIBBOUS_c aFULL_c aWANING_GIBBOUS_c
    aLAST_QUARTER_c aWANING_CRESCENT_c aCRESCENT_MOON aNEW_MOON_WITH_FACE aFIRST_QUARTER_d aLAST_e
    aFULL_d aSUN_c aGLOWING_STAR aSHOOTING_b aTHERMOMETER aBLACK_DROPLET aWHITE_SUN
    bSUN_WITH_SMALL_CLOUD cBEHIND_b dCLOUD_WITH_RAIN ad cSNOW cLIGHTNING cTORNADO aFOG
    aWIND_BLOWING_FACE aHOT_DOG aTACO aBURRITO aCHESTNUT aSEEDLING aEVERGREEN_TREE aDECIDUOUS_b
    aPALM_b aCACTUS aHOT_PEPPER aTULIP aCHERRY_BLOSSOM aROSE aHIBISCUS aSUNFLOWER aBLOSSOM
    aEAR_OF_MAIZE cRICE aHERB aFOUR_LEAF_CLOVER aMAPLE_LEAF aFALLEN_b aLEAF_FLUTTERING_IN_WIND
    aMUSHROOM aTOMATO aAUBERGINE aGRAPES aMELON aWATERMELON aTANGERINE aLEMON aBANANA aPINEAPPLE
    aRED_APPLE aGREEN_b aPEAR aPEACH aCHERRIES aSTRAWBERRY aHAMBURGER aSLICE_OF_PIZZA aMEAT_ON_BONE
    aPOULTRY_LEG aRICE_CRACKER bBALL aCOOKED_RICE aCURRY_AND_b aSTEAMING_BOWL aSPAGHETTI aBREAD
    aFRENCH_FRIES aROASTED_SWEET_POTATO aDANGO aODEN aSUSHI aFRIED_SHRIMP
    aFISH_CAKE_WITH_SWIRL_DESIGN aSOFT_ICE_CREAM aSHAVED_ICE aICE_CREAM aDOUGHNUT aCOOKIE
    aCHOCOLATE_BAR aCANDY aLOLLIPOP aCUSTARD aHONEY_POT aSHORTCAKE aBENTO_BOX aPOT_OF_FOOD aCOOKING
    aFORK_AND_KNIFE aTEACUP_WITHOUT_HANDLE aSAKE_BOTTLE_AND_CUP aWINE_GLASS aCOCKTAIL_b
    aTROPICAL_DRINK aBEER_MUG aCLINKING_BEER_MUGS aBABY_BOTTLE aFORK_AND_KNIFE_WITH_PLATE
    aBOTTLE_WITH_POPPING_CORK aPOPCORN aRIBBON aWRAPPED_PRESENT aBIRTHDAY_CAKE aJACK-O-LANTERN
    aCHRISTMAS_TREE aFATHER_CHRISTMAS aFIREWORKS aFIREWORK_SPARKLER aBALLOON aPARTY_POPPER
    aCONFETTI_BALL aTANABATA_TREE aCROSSED_FLAGS aPINE_DECORATION aJAPANESE_DOLLS aCARP_STREAMER
    aWIND_CHIME aMOON_VIEWING_CEREMONY aSCHOOL_SATCHEL aGRADUATION_CAP aHEART_WITH_TIP_ON_THE_LEFT
    aBOUQUET_OF_FLOWERS aMILITARY_MEDAL aREMINDER_RIBBON aMUSICAL_KEYBOARD_WITH_JACKS
    aSTUDIO_MICROPHONE aLEVEL_SLIDER aCONTROL_KNOBS aBEAMED_ASCENDING_MUSICAL_NOTES bDESCENDING_c
    aFILM_FRAMES aADMISSION_TICKETS aCAROUSEL_HORSE aFERRIS_WHEEL aROLLER_COASTER
    aFISHING_POLE_AND_FISH aMICROPHONE aMOVIE_CAMERA aCINEMA aHEADPHONE aARTIST_PALETTE aTOP_HAT
    aCIRCUS_TENT aTICKET aCLAPPER_BOARD aPERFORMING_ARTS aVIDEO_GAME aDIRECT_HIT aSLOT_MACHINE
    aBILLIARDS aGAME_DIE aBOWLING aFLOWER_PLAYING_CARDS aMUSICAL_NOTE aMULTIPLE_MUSICAL_NOTES
    aSAXOPHONE aGUITAR aMUSICAL_KEYBOARD aTRUMPET aVIOLIN aMUSICAL_SCORE aRUNNING_SHIRT_WITH_SASH
    aTENNIS_RACQUET_AND_BALL aSKI_AND_SKI_BOOT aBASKETBALL_AND_HOOP aCHEQUERED_FLAG aSNOWBOARDER
    aRUNNER aSURFER aSPORTS_MEDAL aTROPHY aHORSE_RACING aAMERICAN_FOOTBALL aRUGBY_b aSWIMMER
    aWEIGHT_LIFTER aGOLFER aRACING_MOTORCYCLE bCAR aCRICKET_BAT_AND_BALL aVOLLEYBALL
    aFIELD_HOCKEY_STICK_AND_BALL aICE_HOCKEY_STICK_AND_PUCK aTABLE_TENNIS_PADDLE_AND_BALL
    aSNOW_CAPPED_MOUNTAIN aCAMPING aBEACH_WITH_UMBRELLA aBUILDING_CONSTRUCTION aHOUSE_BUILDINGS
    aCITYSCAPE aDERELICT_HOUSE_BUILDING aCLASSICAL_b aDESERT aDESERT_ISLAND aNATIONAL_PARK aSTADIUM
    aHOUSE_BUILDING bWITH_GARDEN aOFFICE_BUILDING aJAPANESE_POST_OFFICE aEUROPEAN_c aHOSPITAL aBANK
    aAUTOMATED_TELLER_MACHINE aHOTEL aLOVE_b aCONVENIENCE_STORE aSCHOOL aDEPARTMENT_STORE aFACTORY
    aIZAKAYA_LANTERN aJAPANESE_CASTLE aEUROPEAN_b aWHITE_PENNANT aBLACK_b aWAVING_WHITE_FLAG
    bBLACK_b aROSETTE aBLACK_b aLABEL aBADMINTON_RACQUET_AND_SHUTTLECOCK aBOW_AND_ARROW aAMPHORA
    aEMOJI_MODIFIER_FITZPATRICK_TYPE-1-2 e3 e4 e5 e6 aRAT aMOUSE aOX aWATER_BUFFALO aCOW aTIGER
    aLEOPARD aRABBIT aCAT aDRAGON aCROCODILE aWHALE aSNAIL aSNAKE aHORSE aRAM aGOAT aSHEEP aMONKEY
    aROOSTER aCHICKEN aDOG aPIG aBOAR aELEPHANT aOCTOPUS aSPIRAL_SHELL aBUG aANT aHONEYBEE
    aLADY_BEETLE aFISH aTROPICAL_b aBLOWFISH aTURTLE aHATCHING_CHICK aBABY_b aFRONT-FACING_c aBIRD
    aPENGUIN aKOALA aPOODLE aDROMEDARY_CAMEL aBACTRIAN_b aDOLPHIN aMOUSE_FACE aCOW_b aTIGER_b
    aRABBIT_b aCAT_b aDRAGON_b aSPOUTING_WHALE aHORSE_FACE aMONKEY_b aDOG_b aPIG_b aFROG_b
    aHAMSTER_b aWOLF_b aBEAR_b aPANDA_b aPIG_NOSE aPAW_PRINTS aCHIPMUNK aEYES aEYE aEAR aNOSE aMOUTH
    aTONGUE aWHITE_UP_POINTING_BACKHAND_INDEX bDOWN_d bLEFT_d bRIGHT_d aFISTED_HAND_SIGN aWAVING_c
    aOK_c aTHUMBS_UP_b bDOWN_b aCLAPPING_HANDS_b aOPEN_c aCROWN aWOMANS_HAT aEYEGLASSES aNECKTIE
    aT-SHIRT aJEANS aDRESS aKIMONO aBIKINI aWOMANS_CLOTHES aPURSE aHANDBAG aPOUCH aMANS_SHOE
    aATHLETIC_b aHIGH-HEELED_b aWOMANS_SANDAL bBOOTS aFOOTPRINTS aBUST_IN_SILHOUETTE aBUSTS_c aBOY
    aGIRL aMAN aWOMAN aFAMILY aMAN_AND_WOMAN_HOLDING_HANDS aTWO_MEN_c bWOMEN_c aPOLICE_OFFICER
    aWOMAN_WITH_BUNNY_EARS aBRIDE_WITH_VEIL aPERSON_WITH_BLOND_HAIR aMAN_WITH_GUA_PI_MAO cTURBAN
    aOLDER_MAN bWOMAN aBABY aCONSTRUCTION_WORKER aPRINCESS aJAPANESE_OGRE bGOBLIN aGHOST aBABY_ANGEL
    aEXTRATERRESTRIAL_ALIEN aALIEN_MONSTER aIMP aSKULL aINFORMATION_DESK_PERSON aGUARDSMAN aDANCER
    aLIPSTICK aNAIL_POLISH aFACE_MASSAGE aHAIRCUT aBARBER_POLE aSYRINGE aPILL aKISS_MARK
    aLOVE_LETTER aRING aGEM_STONE aKISS aBOUQUET aCOUPLE_WITH_HEART aWEDDING aBEATING_HEART
    aBROKEN_b aTWO_HEARTS aSPARKLING_HEART aGROWING_b aHEART_WITH_ARROW aBLUE_HEART aGREEN_b
    aYELLOW_b aPURPLE_b aHEART_WITH_RIBBON aREVOLVING_HEARTS aHEART_DECORATION
    aDIAMOND_SHAPE_WITH_A_DOT_INSIDE aELECTRIC_LIGHT_BULB aANGER_SYMBOL aBOMB aSLEEPING_SYMBOL
    aCOLLISION_b aSPLASHING_SWEAT_b aDROPLET aDASH_SYMBOL aPILE_OF_POO aFLEXED_BICEPS aDIZZY_SYMBOL
    aSPEECH_BALLOON aTHOUGHT_b aWHITE_FLOWER aHUNDRED_POINTS_SYMBOL aMONEY_BAG aCURRENCY_EXCHANGE
    aHEAVY_DOLLAR_SIGN aCREDIT_CARD aBANKNOTE_WITH_YEN_SIGN cDOLLAR_b cEURO_b cPOUND_b
    aMONEY_WITH_WINGS aCHART_WITH_UPWARDS_TREND_AND_YEN_SIGN aSEAT aPERSONAL_COMPUTER aBRIEFCASE
    aMINIDISC aFLOPPY_DISK aOPTICAL_DISC aDVD aFILE_FOLDER aOPEN_c aPAGE_WITH_CURL bFACING_UP
    aCALENDAR aTEAR-OFF_b aCARD_INDEX aCHART_WITH_UPWARDS_TREND cDOWNWARDS_b aBAR_CHART aCLIPBOARD
    aPUSHPIN aROUND_b aPAPERCLIP aSTRAIGHT_RULER aTRIANGULAR_b aBOOKMARK_TABS aLEDGER aNOTEBOOK
    aNOTEBOOK_WITH_DECORATIVE_COVER aCLOSED_BOOK aOPEN_b aGREEN_b aBLUE_b aORANGE_b aBOOKS
    aNAME_BADGE aSCROLL aMEMO aTELEPHONE_RECEIVER aPAGER aFAX_MACHINE aSATELLITE_ANTENNA
    aPUBLIC_ADDRESS_LOUDSPEAKER aCHEERING_MEGAPHONE aOUTBOX_TRAY aINBOX_b aPACKAGE aE-MAIL_SYMBOL
    aINCOMING_ENVELOPE aENVELOPE_WITH_DOWNWARDS_ARROW_ABOVE aCLOSED_MAILBOX_WITH_LOWERED_FLAG
    dRAISED_b aOPEN_e dLOWERED_b aPOSTBOX aPOSTAL_HORN aNEWSPAPER aMOBILE_PHONE
    bPHONE_WITH_RIGHTWARDS_ARROW_AT_LEFT aVIBRATION_MODE aMOBILE_PHONE_OFF aNO_MOBILE_PHONES
    aANTENNA_WITH_BARS aCAMERA aCAMERA_WITH_FLASH aVIDEO_CAMERA aTELEVISION aRADIO aVIDEOCASSETTE
    aFILM_PROJECTOR aPORTABLE_STEREO aPRAYER_BEADS aTWISTED_RIGHTWARDS_ARROWS
    aCLOCKWISE_RIGHTWARDS_AND_LEFTWARDS_OPEN_CIRCLE_b gARROWS_WITH_CIRCLED_ONE_OVERLAY
    bDOWNWARDS_AND_UPWARDS_OPEN_CIRCLE_ARROWS aANTICLOCKWISE_g aLOW_BRIGHTNESS_SYMBOL aHIGH_c
    aSPEAKER_WITH_CANCELLATION_STROKE aSPEAKER aSPEAKER_WITH_ONE_SOUND_WAVE cTHREE_SOUND_WAVES
    aBATTERY aELECTRIC_PLUG aLEFT-POINTING_MAGNIFYING_GLASS aRIGHT-d aLOCK_WITH_INK_PEN
    aCLOSED_LOCK_WITH_KEY ab aLOCK aOPEN_b aBELL aBELL_WITH_CANCELLATION_STROKE aBOOKMARK
    aLINK_SYMBOL aRADIO_BUTTON aBACK_WITH_LEFTWARDS_ARROW_ABOVE aEND_e
    aON_WITH_EXCLAMATION_MARK_WITH_LEFT_RIGHT_c aSOON_WITH_RIGHTWARDS_c aTOP_WITH_UPWARDS_c
    aNO_ONE_UNDER_EIGHTEEN_SYMBOL aKEYCAP_TEN aINPUT_SYMBOL_FOR_LATIN_CAPITAL_LETTERS eSMALL_b
    dNUMBERS dSYMBOLS dLATIN_LETTERS aFIRE aELECTRIC_TORCH aWRENCH aHAMMER aNUT_AND_BOLT aHOCHO
    aPISTOL aMICROSCOPE aTELESCOPE aCRYSTAL_BALL aSIX_POINTED_STAR_WITH_MIDDLE_DOT
    aJAPANESE_SYMBOL_FOR_BEGINNER aTRIDENT_EMBLEM aBLACK_SQUARE_BUTTON aWHITE_c aLARGE_RED_CIRCLE
    bBLUE_b bORANGE_DIAMOND bBLUE_b aSMALL_ORANGE_b bBLUE_b aUP-POINTING_RED_TRIANGLE aDOWN-d
    aUP-POINTING_SMALL_c aDOWN-e aLOWER_RIGHT_SHADOWED_WHITE_CIRCLE aUPPER_e aCIRCLED_CROSS_POMMEE
    aCROSS_POMMEE_WITH_HALF-CIRCLE_BELOW bPOMMEE aNOTCHED_LEFT_SEMICIRCLE_WITH_THREE_DOTS bRIGHT_e
    aSYMBOL_FOR_MARKS_CHAPTER aWHITE_LATIN_CROSS aHEAVY_c aCELTIC_b aOM_SYMBOL aDOVE_OF_PEACE aKAABA
    aMOSQUE aSYNAGOGUE aMENORAH_WITH_NINE_BRANCHES aBOWL_OF_HYGIEIA aCLOCK_FACE_ONE_OCLOCK cTWO_b
    cTHREE_b cFOUR_b cFIVE_b cSIX_b cSEVEN_b cEIGHT_b cNINE_b cTEN_b cELEVEN_b cTWELVE_b cONE-THIRTY
    cTWO-b cTHREE-b cFOUR-b cFIVE-b cSIX-b cSEVEN-b cEIGHT-b cNINE-b cTEN-b cELEVEN-b cTWELVE-b
    aRIGHT_SPEAKER bSPEAKER_WITH_ONE_SOUND_WAVE dTHREE_SOUND_WAVES aBULLHORN
    aBULLHORN_WITH_SOUND_WAVES aRINGING_BELL aBOOK aCANDLE aMANTELPIECE_CLOCK
    aBLACK_SKULL_AND_CROSSBONES aNO_PIRACY aHOLE aMAN_IN_BUSINESS_SUIT_LEVITATING aSLEUTH_OR_SPY
    aDARK_SUNGLASSES aSPIDER aSPIDER_WEB aJOYSTICK aMAN_DANCING aLEFT_HAND_TELEPHONE_RECEIVER
    aTELEPHONE_RECEIVER_WITH_PAGE aRIGHT_HAND_TELEPHONE_RECEIVER aWHITE_TOUCHTONE_TELEPHONE aBLACK_c
    aTELEPHONE_ON_TOP_OF_MODEM aCLAMSHELL_MOBILE_PHONE aBACK_OF_ENVELOPE aSTAMPED_b
    aENVELOPE_WITH_LIGHTNING aFLYING_ENVELOPE aPEN_OVER_STAMPED_b aLINKED_PAPERCLIPS aBLACK_PUSHPIN
    aLOWER_LEFT_PENCIL cBALLPOINT_PEN cFOUNTAIN_b cPAINTBRUSH cCRAYON aLEFT_WRITING_HAND
    aTURNED_OK_HAND_SIGN aRAISED_HAND_WITH_FINGERS_SPLAYED aREVERSED_f bTHUMBS_UP_SIGN cDOWN_b
    bVICTORY_HAND bHAND_WITH_MIDDLE_FINGER_EXTENDED
    aRAISED_HAND_WITH_PART_BETWEEN_MIDDLE_AND_RING_FINGERS aWHITE_DOWN_POINTING_LEFT_HAND_INDEX
    aSIDEWAYS_WHITE_LEFT_POINTING_b cRIGHT_c bBLACK_LEFT_c cRIGHT_c aBLACK_LEFT_POINTING_BACKHAND_b
    bRIGHT_d aSIDEWAYS_WHITE_UP_POINTING_b cDOWN_c bBLACK_UP_c cDOWN_c aBLACK_UP_POINTING_BACKHAND_b
    bDOWN_d bHEART aDESKTOP_COMPUTER aKEYBOARD_AND_MOUSE aTHREE_NETWORKED_COMPUTERS aPRINTER
    aPOCKET_CALCULATOR aBLACK_HARD_SHELL_FLOPPY_DISK aWHITE_e aSOFT_d aTAPE_CARTRIDGE
    aWIRED_KEYBOARD aONE_BUTTON_MOUSE aTWO_c aTHREE_c aTRACKBALL aOLD_PERSONAL_COMPUTER aHARD_DISK
    aSCREEN aPRINTER_ICON aFAX_b aOPTICAL_DISC_b aDOCUMENT_WITH_TEXT cTEXT_AND_PICTURE cb aFRAME_c
    cTILES cAN_X aBLACK_FOLDER ab aOPEN_b aCARD_INDEX_DIVIDERS bFILE_BOX aFILE_CABINET aEMPTY_NOTE
    bNOTE_PAGE cPAD aNOTE aNOTE_PAGE bPAD aEMPTY_DOCUMENT bPAGE bPAGES aDOCUMENT aPAGE aPAGES
    aWASTEBASKET aSPIRAL_NOTE_PAD bCALENDAR_b aDESKTOP_WINDOW aMINIMIZE aMAXIMIZE aOVERLAP
    aCLOCKWISE_RIGHT_AND_LEFT_SEMICIRCLE_ARROWS aCANCELLATION_X aINCREASE_FONT_SIZE_SYMBOL
    aDECREASE_d aCOMPRESSION aOLD_KEY aROLLED-UP_NEWSPAPER aPAGE_WITH_CIRCLED_TEXT aSTOCK_CHART
    aDAGGER_KNIFE aLIPS aSPEAKING_HEAD_IN_SILHOUETTE aTHREE_RAYS_ABOVE cBELOW cLEFT cRIGHT
    aLEFT_SPEECH_BUBBLE aRIGHT_c aTWO_SPEECH_BUBBLES aTHREE_c aLEFT_THOUGHT_BUBBLE aRIGHT_c
    aLEFT_ANGER_b aRIGHT_c aMOOD_b aLIGHTNING_c bMOOD aBALLOT_BOX_WITH_BALLOT bSCRIPT_X bBOX_WITH_c
    bBOLD_c bBOX_WITH_d aLIGHT_CHECK_MARK aBALLOT_BOX_WITH_BOLD_CHECK aWORLD_MAP aMOUNT_FUJI
    aTOKYO_TOWER aSTATUE_OF_LIBERTY aSILHOUETTE_OF_JAPAN aMOYAI aGRINNING_FACE
    bFACE_WITH_SMILING_EYES aFACE_WITH_TEARS_OF_JOY aSMILING_FACE_WITH_OPEN_MOUTH
    eMOUTH_AND_SMILING_EYES gCOLD_SWEAT gTIGHTLY-CLOSED_EYES dHALO dHORNS aWINKING_FACE
    aSMILING_FACE_WITH_SMILING_EYES aFACE_SAVOURING_DELICIOUS_FOOD aRELIEVED_FACE
    aSMILING_FACE_WITH_HEART-SHAPED_EYES dSUNGLASSES aSMIRKING_FACE aNEUTRAL_b aEXPRESSIONLESS_b
    aUNAMUSED_b aFACE_WITH_COLD_SWEAT aPENSIVE_FACE aCONFUSED_b aCONFOUNDED_b aKISSING_b
    aFACE_THROWING_A_KISS aKISSING_FACE_WITH_SMILING_EYES dCLOSED_b aFACE_WITH_STUCK-OUT_TONGUE
    eTONGUE_AND_WINKING_EYE gTIGHTLY-CLOSED_EYES aDISAPPOINTED_FACE aWORRIED_b aANGRY_b aPOUTING_b
    aCRYING_b aPERSEVERING_b aFACE_WITH_LOOK_OF_TRIUMPH aDISAPPOINTED_BUT_RELIEVED_FACE
    aFROWNING_FACE_WITH_OPEN_MOUTH aANGUISHED_FACE aFEARFUL_b aWEARY_b aSLEEPY_b aTIRED_b
    aGRIMACING_b aLOUDLY_CRYING_b aFACE_WITH_OPEN_MOUTH aHUSHED_FACE
    aFACE_WITH_OPEN_MOUTH_AND_COLD_SWEAT bSCREAMING_IN_FEAR aASTONISHED_FACE aFLUSHED_b aSLEEPING_b
    aDIZZY_b aFACE_WITHOUT_MOUTH bWITH_MEDICAL_MASK aGRINNING_CAT_FACE_WITH_SMILING_EYES
    aCAT_FACE_WITH_TEARS_OF_JOY aSMILING_CAT_FACE_WITH_OPEN_MOUTH eHEART-SHAPED_EYES
    aCAT_FACE_WITH_WRY_SMILE aKISSING_CAT_FACE_WITH_CLOSED_EYES aPOUTING_CAT_FACE aCRYING_c aWEARY_c
    aSLIGHTLY_FROWNING_b bSMILING_b aUPSIDE-DOWN_b aFACE_WITH_ROLLING_EYES cNO_GOOD_GESTURE cOK_b
    aPERSON_BOWING_DEEPLY aSEE-NO-EVIL_MONKEY aHEAR-d aSPEAK-d aHAPPY_PERSON_RAISING_ONE_HAND
    aPERSON_RAISING_BOTH_HANDS_IN_CELEBRATION bFROWNING bWITH_POUTING_FACE cFOLDED_HANDS
    aNORTH_WEST_POINTING_LEAF aSOUTH_d aNORTH_EAST_c aSOUTH_d aTURNED_NORTH_WEST_c bSOUTH_d
    bNORTH_EAST_c bSOUTH_d aNORTH_WEST_POINTING_VINE_b aSOUTH_e aNORTH_EAST_d aSOUTH_e
    aHEAVY_NORTH_WEST_d bSOUTH_e bNORTH_EAST_d bSOUTH_e aNORTH_WEST_POINTING_BUD aSOUTH_d
    aNORTH_EAST_c aSOUTH_d aHEAVY_NORTH_WEST_c bSOUTH_d bNORTH_EAST_c bSOUTH_d
    aHOLLOW_QUILT_SQUARE_ORNAMENT dORNAMENT_IN_BLACK_SQUARE aSOLID_QUILT_SQUARE_ORNAMENT
    dORNAMENT_IN_BLACK_SQUARE aLEFTWARDS_ROCKET aUPWARDS_b aRIGHTWARDS_b aDOWNWARDS_b
    aSCRIPT_LIGATURE_ET_ORNAMENT aHEAVY_e aLIGATURE_OPEN_c aHEAVY_e bAMPERSAND_b aSWASH_c
    aSANS-SERIF_HEAVY_DOUBLE_TURNED_COMMA_QUOTATION_MARK_b ee dLOW_f aHEAVY_INTERROBANG_b
    aSANS-SERIF_c aHEAVY_e aVERY_HEAVY_SOLIDUS cREVERSE_b aCHECKER_BOARD aREVERSE_c aROCKET
    aHELICOPTER aSTEAM_LOCOMOTIVE aRAILWAY_CAR aHIGH-SPEED_TRAIN cTRAIN_WITH_BULLET_NOSE aTRAIN
    aMETRO aLIGHT_RAIL aSTATION aTRAM aTRAM_CAR aBUS aONCOMING_b aTROLLEYBUS aBUS_STOP aMINIBUS
    aAMBULANCE aFIRE_ENGINE aPOLICE_CAR aONCOMING_c aTAXI aONCOMING_b aAUTOMOBILE aONCOMING_b
    aRECREATIONAL_VEHICLE aDELIVERY_TRUCK aARTICULATED_LORRY aTRACTOR aMONORAIL aMOUNTAIN_RAILWAY
    aSUSPENSION_b aMOUNTAIN_CABLEWAY aAERIAL_TRAMWAY aSHIP aROWBOAT aSPEEDBOAT
    aHORIZONTAL_TRAFFIC_LIGHT aVERTICAL_c aCONSTRUCTION_SIGN aPOLICE_CARS_REVOLVING_LIGHT
    aTRIANGULAR_FLAG_ON_POST aDOOR aNO_ENTRY_SIGN aSMOKING_SYMBOL aNO_c aPUT_LITTER_IN_ITS_PLACE_b
    aDO_NOT_LITTER_b aPOTABLE_WATER_b aNON-d aBICYCLE aNO_BICYCLES aBICYCLIST aMOUNTAIN_b
    aPEDESTRIAN aNO_PEDESTRIANS aCHILDREN_CROSSING aMENS_SYMBOL aWOMENS_b aRESTROOM aBABY_SYMBOL
    aTOILET aWATER_CLOSET aSHOWER aBATH aBATHTUB aPASSPORT_CONTROL aCUSTOMS aBAGGAGE_CLAIM
    aLEFT_LUGGAGE aTRIANGLE_WITH_ROUNDED_CORNERS aPROHIBITED_SIGN aCIRCLED_INFORMATION_SOURCE
    aBOYS_SYMBOL aGIRLS_b aCOUCH_AND_LAMP aSLEEPING_ACCOMMODATION aSHOPPING_BAGS aBELLHOP_BELL aBED
    aPLACE_OF_WORSHIP aOCTAGONAL_SIGN aSHOPPING_TROLLEY aSTUPA aPAGODA aHINDU_TEMPLE aHUT aELEVATOR
    1F6DD aPLAYGROUND_SLIDE aWHEEL aRING_BUOY aHAMMER_AND_WRENCH aSHIELD aOIL_DRUM aMOTORWAY
    aRAILWAY_TRACK aMOTOR_BOAT aUP-POINTING_MILITARY_AIRPLANE cb cSMALL_b ac aNORTHEAST-POINTING_b
    aAIRPLANE_DEPARTURE bARRIVING 1F6F0 aSATELLITE aONCOMING_FIRE_ENGINE aDIESEL_LOCOMOTIVE
    aPASSENGER_SHIP aSCOOTER aMOTOR_b aCANOE aSLED aFLYING_SAUCER aSKATEBOARD aAUTO_RICKSHAW
    aPICKUP_TRUCK aROLLER_SKATE 1F700 aALCHEMICAL_SYMBOL_FOR_QUINTESSENCE dAIR dFIRE dEARTH dWATER
    dAQUAFORTIS dAQUA_REGIA eREGIA-2 eVITAE eVITAE-2 dVINEGAR dVINEGAR-2 e3 dSULFUR dPHILOSOPHERS_b
    dBLACK_b dMERCURY_SUBLIMATE eSUBLIMATE-2 f3 dCINNABAR dSALT dNITRE dVITRIOL dVITRIOL-2
    dROCK_SALT eSALT-2 dGOLD dSILVER dIRON_ORE eORE-2 dCROCUS_OF_IRON dREGULUS_c dCOPPER_ORE dIRON-c
    dSUBLIMATE_OF_COPPER dCROCUS_c fCOPPER-2 dCOPPER_ANTIMONIATE dSALT_OF_c
    dSUBLIMATE_OF_SALT_OF_COPPER dVERDIGRIS dTIN_ORE dLEAD_b dANTIMONY_b dSUBLIMATE_OF_ANTIMONY
    dSALT_c dSUBLIMATE_OF_d dVINEGAR_c dREGULUS_c fANTIMONY-2 dREGULUS dREGULUS-2 e3 e4 dALKALI
    dALKALI-2 dMARCASITE dSAL-AMMONIAC dARSENIC dREALGAR dREALGAR-2 dAURIPIGMENT dBISMUTH_ORE
    dTARTAR dTARTAR-2 dQUICK_LIME dBORAX dBORAX-2 e3 dALUM dOIL dSPIRIT dTINCTURE dGUM dWAX dPOWDER
    dCALX dTUTTY dCAPUT_MORTUUM dSCEPTER_OF_JOVE dCADUCEUS dTRIDENT dSTARRED_b dLODESTONE dSOAP
    dURINE dHORSE_DUNG dASHES dPOT_b dBRICK dPOWDERED_b dAMALGAM dSTRATUM_SUPER_STRATUM fSTRATUM-2
    dSUBLIMATION dPRECIPITATE dDISTILL dDISSOLVE dDISSOLVE-2 dPURIFY dPUTREFACTION dCRUCIBLE
    dCRUCIBLE-2 e3 e4 e5 dALEMBIC dBATH_OF_MARY fVAPOURS dRETORT dHOUR dNIGHT dDAY-b dMONTH
    dHALF_DRAM eOUNCE 1F780 aBLACK_LEFT-POINTING_ISOSCELES_RIGHT_TRIANGLE bUP-e bRIGHT-e bDOWN-e
    bSLIGHTLY_SMALL_CIRCLE aMEDIUM_BOLD_WHITE_b ad aHEAVY_c aVERY_d aEXTREMELY_d
    aWHITE_CIRCLE_CONTAINING_BLACK_SMALL_b aROUND_TARGET aBLACK_TINY_SQUARE bSLIGHTLY_SMALL_b
    aLIGHT_WHITE_b aMEDIUM_c aBOLD_c aHEAVY_c aVERY_d aEXTREMELY_d
    aWHITE_SQUARE_CONTAINING_BLACK_VERY_SMALL_b eMEDIUM_b aSQUARE_TARGET aBLACK_TINY_DIAMOND
    bVERY_SMALL_b bMEDIUM_c aWHITE_DIAMOND_CONTAINING_BLACK_VERY_c eMEDIUM_b aDIAMOND_TARGET
    aBLACK_TINY_LOZENGE bVERY_SMALL_b bMEDIUM_c aWHITE_LOZENGE_CONTAINING_BLACK_c aTHIN_GREEK_CROSS
    aLIGHT_c aMEDIUM_c aBOLD_c aVERY_d bHEAVY_c aEXTREMELY_d aTHIN_SALTIRE aLIGHT_b aMEDIUM_b
    aBOLD_b aHEAVY_b aVERY_c aEXTREMELY_c aLIGHT_FIVE_SPOKED_ASTERISK aMEDIUM_d aBOLD_d aHEAVY_d
    aVERY_e aEXTREMELY_e aLIGHT_SIX_c aMEDIUM_d aBOLD_d aHEAVY_d aVERY_e aEXTREMELY_e aLIGHT_EIGHT_c
    aMEDIUM_d aBOLD_d aHEAVY_d aVERY_e aLIGHT_THREE_POINTED_BLACK_STAR aMEDIUM_e ae
    aMEDIUM_THREE_POINTED_PINWHEEL_b aLIGHT_FOUR_POINTED_BLACK_b aMEDIUM_e ae
    aMEDIUM_FOUR_POINTED_PINWHEEL_b aREVERSE_LIGHT_e aLIGHT_FIVE_POINTED_BLACK_b aHEAVY_e
    aMEDIUM_SIX_d aHEAVY_e aSIX_POINTED_PINWHEEL_b aMEDIUM_EIGHT_POINTED_BLACK_b aHEAVY_e aVERY_f
    aHEAVY_EIGHT_POINTED_PINWHEEL_b aLIGHT_TWELVE_POINTED_BLACK_b aHEAVY_e dPINWHEEL_b
    aCIRCLED_TRIANGLE aNEGATIVE_c aCIRCLED_SQUARE aNEGATIVE_c 1F7E0 aLARGE_ORANGE_CIRCLE bYELLOW_b
    bGREEN_b bPURPLE_b bBROWN_b bRED_SQUARE bBLUE_b bORANGE_b bYELLOW_b bGREEN_b bPURPLE_b bBROWN_b
    1F7F0 aHEAVY_EQUALS_SIGN 1F800 aLEFTWARDS_ARROW_WITH_SMALL_TRIANGLE_ARROWHEAD aUPWARDS_f
    aRIGHTWARDS_f aDOWNWARDS_f aLEFTWARDS_ARROW_WITH_MEDIUM_c aUPWARDS_f aRIGHTWARDS_f aDOWNWARDS_f
    aLEFTWARDS_ARROW_WITH_LARGE_c aUPWARDS_f aRIGHTWARDS_f aDOWNWARDS_f 1F810
    aLEFTWARDS_ARROW_WITH_SMALL_EQUILATERAL_b aUPWARDS_f aRIGHTWARDS_f aDOWNWARDS_f
    aLEFTWARDS_ARROW_WITH_c aUPWARDS_e aRIGHTWARDS_e aDOWNWARDS_e aHEAVY_LEFTWARDS_e bUPWARDS_e
    bRIGHTWARDS_e bDOWNWARDS_e bLEFTWARDS_ARROW_WITH_LARGE_c bUPWARDS_f bRIGHTWARDS_f bDOWNWARDS_f
    aLEFTWARDS_TRIANGLE-HEADED_ARROW_WITH_NARROW_SHAFT aUPWARDS_g aRIGHTWARDS_g aDOWNWARDS_g
    aLEFTWARDS_TRIANGLE-HEADED_ARROW_WITH_MEDIUM_b aUPWARDS_g aRIGHTWARDS_g aDOWNWARDS_g
    aLEFTWARDS_TRIANGLE-HEADED_ARROW_WITH_BOLD_b aUPWARDS_g aRIGHTWARDS_g aDOWNWARDS_g
    aLEFTWARDS_TRIANGLE-HEADED_ARROW_WITH_HEAVY_b aUPWARDS_g aRIGHTWARDS_g aDOWNWARDS_g
    aLEFTWARDS_TRIANGLE-HEADED_ARROW_WITH_VERY_c aUPWARDS_h aRIGHTWARDS_h aDOWNWARDS_h
    aLEFTWARDS_FINGER-POST_ARROW aUPWARDS_d aRIGHTWARDS_d aDOWNWARDS_d aLEFTWARDS_SQUARED_b
    aUPWARDS_c aRIGHTWARDS_c aDOWNWARDS_c aLEFTWARDS_COMPRESSED_b aUPWARDS_c aRIGHTWARDS_c
    aDOWNWARDS_c aLEFTWARDS_HEAVY_c aUPWARDS_d aRIGHTWARDS_d aDOWNWARDS_d aLEFTWARDS_HEAVY_b
    aUPWARDS_c aRIGHTWARDS_c aDOWNWARDS_c 1F850 aLEFTWARDS_SANS-SERIF_b aUPWARDS_d aRIGHTWARDS_d
    aDOWNWARDS_d aNORTH_WEST_d bEAST_d aSOUTH_e bWEST_d aLEFT_RIGHT_d aUP_DOWN_d 1F860
    aWIDE-HEADED_LEFTWARDS_LIGHT_BARB_b cUPWARDS_d cRIGHTWARDS_d cDOWNWARDS_d cNORTH_WEST_d dEAST_d
    cSOUTH_e dWEST_d cLEFTWARDS_c cUPWARDS_c cRIGHTWARDS_c cDOWNWARDS_c cNORTH_WEST_c dEAST_c
    cSOUTH_d dWEST_c cLEFTWARDS_MEDIUM_c cUPWARDS_d cRIGHTWARDS_d cDOWNWARDS_d cNORTH_WEST_d dEAST_d
    cSOUTH_e dWEST_d cLEFTWARDS_HEAVY_c cUPWARDS_d cRIGHTWARDS_d cDOWNWARDS_d cNORTH_WEST_d dEAST_d
    cSOUTH_e dWEST_d cLEFTWARDS_VERY_d cUPWARDS_e cRIGHTWARDS_e cDOWNWARDS_e cNORTH_WEST_e dEAST_e
    cSOUTH_f dWEST_e 1F890 aLEFTWARDS_TRIANGLE_ARROWHEAD aUPWARDS_c aRIGHTWARDS_c aDOWNWARDS_c
    aLEFTWARDS_WHITE_ARROW_WITHIN_c aUPWARDS_f aRIGHTWARDS_f aDOWNWARDS_f
    aLEFTWARDS_ARROW_WITH_NOTCHED_TAIL aUPWARDS_e aRIGHTWARDS_e aDOWNWARDS_e
    aHEAVY_ARROW_SHAFT_WIDTH_ONE eTWO_THIRDS eONE_HALF fTHIRD aLEFTWARDS_BOTTOM-SHADED_WHITE_ARROW
    aRIGHTWARDS_BOTTOM_d aLEFTWARDS_TOP_d aRIGHTWARDS_e aLEFTWARDS_LEFT-d aRIGHTWARDS_RIGHT-d
    aLEFTWARDS_e aRIGHTWARDS_LEFT-d aLEFTWARDS_BACK-TILTED_SHADOWED_c aRIGHTWARDS_f
    aLEFTWARDS_FRONT-e aRIGHTWARDS_f aWHITE_ARROW_SHAFT_WIDTH_ONE eTWO_THIRDS 1F8B0
    aARROW_POINTING_UPWARDS_THEN_NORTH_WEST cRIGHTWARDS_THEN_CURVING_SOUTH_b 1F900
    aCIRCLED_CROSS_FORMEE_WITH_FOUR_DOTS eTWO_b cFORMEE aLEFT_HALF_CIRCLE_WITH_FOUR_DOTS eTHREE_b
    eTWO_b eDOT cCIRCLE aDOWNWARD_FACING_HOOK cNOTCHED_b cHOOK_WITH_DOT cNOTCHED_d aPINCHED_FINGERS
    aWHITE_HEART aBROWN_b aPINCHING_HAND aZIPPER-MOUTH_FACE aMONEY-c aFACE_WITH_THERMOMETER
    aNERD_FACE aTHINKING_b aFACE_WITH_HEAD-BANDAGE aROBOT_FACE aHUGGING_b aSIGN_OF_THE_HORNS
    aCALL_ME_HAND aRAISED_BACK_OF_b aLEFT-FACING_FIST aRIGHT-c aHANDSHAKE
    aHAND_WITH_INDEX_AND_MIDDLE_FINGERS_CROSSED aI_LOVE_YOU_HAND_SIGN aFACE_WITH_COWBOY_HAT
    aCLOWN_FACE aNAUSEATED_b aROLLING_ON_THE_FLOOR_LAUGHING aDROOLING_FACE aLYING_b aFACE_PALM
    aSNEEZING_FACE aFACE_WITH_ONE_EYEBROW_RAISED aGRINNING_FACE_WITH_STAR_EYES
    dONE_LARGE_AND_ONE_SMALL_EYE aFACE_WITH_FINGER_COVERING_CLOSED_LIPS
    aSERIOUS_FACE_WITH_SYMBOLS_COVERING_MOUTH aSMILING_FACE_WITH_SMILING_EYES_AND_HAND_c
    aFACE_WITH_OPEN_MOUTH_VOMITING aSHOCKED_FACE_WITH_EXPLODING_HEAD aPREGNANT_WOMAN aBREAST-FEEDING
    aPALMS_UP_TOGETHER aSELFIE aPRINCE aMAN_IN_TUXEDO aMOTHER_CHRISTMAS aSHRUG
    aPERSON_DOING_CARTWHEEL aJUGGLING aFENCER aMODERN_PENTATHLON aWRESTLERS aWATER_POLO aHANDBALL
    aDIVING_MASK aWILTED_FLOWER aDRUM_WITH_DRUMSTICKS aCLINKING_GLASSES aTUMBLER_GLASS aSPOON
    aGOAL_NET aRIFLE aFIRST_PLACE_MEDAL aSECOND_c aTHIRD_c aBOXING_GLOVE aMARTIAL_ARTS_UNIFORM
    aCURLING_STONE aLACROSSE_STICK_AND_BALL aSOFTBALL aFLYING_DISC aCROISSANT aAVOCADO aCUCUMBER
    aBACON aPOTATO aCARROT aBAGUETTE_BREAD aGREEN_SALAD aSHALLOW_PAN_OF_FOOD aSTUFFED_FLATBREAD aEGG
    aGLASS_OF_MILK aPEANUTS aKIWIFRUIT aPANCAKES aDUMPLING aFORTUNE_COOKIE aTAKEOUT_BOX aCHOPSTICKS
    aBOWL_WITH_SPOON aCUP_WITH_STRAW aCOCONUT aBROCCOLI aPIE aPRETZEL aCUT_OF_MEAT aSANDWICH
    aCANNED_FOOD aLEAFY_GREEN aMANGO aMOON_CAKE aBAGEL
    aSMILING_FACE_WITH_SMILING_EYES_AND_THREE_HEARTS aYAWNING_FACE aSMILING_FACE_WITH_TEAR
    aFACE_WITH_PARTY_HORN_AND_PARTY_HAT cUNEVEN_EYES_AND_WAVY_MOUTH aOVERHEATED_FACE aFREEZING_b
    aNINJA aDISGUISED_FACE aFACE_HOLDING_BACK_TEARS bWITH_PLEADING_EYES aSARI aLAB_COAT aGOGGLES
    aHIKING_BOOT aFLAT_SHOE aCRAB aLION_FACE aSCORPION aTURKEY aUNICORN_FACE aEAGLE aDUCK aBAT
    aSHARK aOWL aFOX_FACE aBUTTERFLY aDEER aGORILLA aLIZARD aRHINOCEROS aSHRIMP aSQUID aGIRAFFE_FACE
    aZEBRA_b aHEDGEHOG aSAUROPOD aT-REX aCRICKET aKANGAROO aLLAMA aPEACOCK aHIPPOPOTAMUS aPARROT
    aRACCOON aLOBSTER aMOSQUITO aMICROBE aBADGER aSWAN aMAMMOTH aDODO aSLOTH aOTTER aORANGUTAN
    aSKUNK aFLAMINGO aOYSTER aBEAVER aBISON aSEAL aGUIDE_DOG aPROBING_CANE aEMOJI_COMPONENT_RED_HAIR
    cCURLY_b cBALD cWHITE_HAIR aBONE aLEG aFOOT aTOOTH aSUPERHERO aSUPERVILLAIN aSAFETY_VEST
    aEAR_WITH_HEARING_AID aMOTORIZED_WHEELCHAIR aMANUAL_b aMECHANICAL_ARM bLEG aCHEESE_WEDGE
    aCUPCAKE aSALT_SHAKER aBEVERAGE_BOX aGARLIC aONION aFALAFEL aWAFFLE aBUTTER aMATE_DRINK
    aICE_CUBE aBUBBLE_TEA aTROLL aSTANDING_PERSON aKNEELING_b aDEAF_b aFACE_WITH_MONOCLE aADULT
    aCHILD aOLDER_ADULT aBEARDED_PERSON aPERSON_WITH_HEADSCARF bIN_STEAMY_ROOM bCLIMBING
    bIN_LOTUS_POSITION aMAGE aFAIRY aVAMPIRE aMERPERSON aELF aGENIE aZOMBIE aBRAIN aORANGE_HEART
    aBILLED_CAP aSCARF aGLOVES aCOAT aSOCKS aRED_GIFT_ENVELOPE aFIRECRACKER aJIGSAW_PUZZLE_PIECE
    aTEST_TUBE aPETRI_DISH aDNA_DOUBLE_HELIX aCOMPASS aABACUS aFIRE_EXTINGUISHER aTOOLBOX aBRICK
    aMAGNET aLUGGAGE aLOTION_BOTTLE aSPOOL_OF_THREAD aBALL_OF_YARN aSAFETY_PIN aTEDDY_BEAR aBROOM
    aBASKET aROLL_OF_PAPER aBAR_OF_SOAP aSPONGE aRECEIPT aNAZAR_AMULET aNEUTRAL_CHESS_KING cQUEEN
    cROOK cBISHOP cKNIGHT cPAWN aWHITE_CHESS_KNIGHT_ROTATED_FORTY-FIVE_DEGREES aBLACK_g aNEUTRAL_g
    aWHITE_CHESS_KING_ROTATED_NINETY_b cQUEEN_d cROOK_d cBISHOP_d cKNIGHT_d cPAWN_d
    aBLACK_CHESS_KING_d cQUEEN_d cROOK_d cBISHOP_d cKNIGHT_d cPAWN_d aNEUTRAL_CHESS_KING_d cQUEEN_d
    cROOK_d cBISHOP_d cKNIGHT_d cPAWN_d aWHITE_CHESS_KNIGHT_ROTATED_ONE_HUNDRED_THIRTY-FIVE_b
    aBLACK_i aNEUTRAL_i aWHITE_CHESS_TURNED_KING dQUEEN dROOK dBISHOP dKNIGHT dPAWN
    aBLACK_CHESS_TURNED_KING dQUEEN dROOK dBISHOP dKNIGHT dPAWN aNEUTRAL_CHESS_TURNED_KING dQUEEN
    dROOK dBISHOP dKNIGHT dPAWN aWHITE_CHESS_KNIGHT_ROTATED_TWO_HUNDRED_TWENTY-FIVE_DEGREES aBLACK_i
    aNEUTRAL_i aWHITE_CHESS_KING_ROTATED_TWO_HUNDRED_SEVENTY_b cQUEEN_f cROOK_f cBISHOP_f cKNIGHT_f
    cPAWN_f aBLACK_CHESS_KING_f cQUEEN_f cROOK_f cBISHOP_f cKNIGHT_f cPAWN_f aNEUTRAL_CHESS_KING_f
    cQUEEN_f cROOK_f cBISHOP_f cKNIGHT_f cPAWN_f aWHITE_CHESS_KNIGHT_ROTATED_THREE_HUNDRED_FIFTEEN_b
    aBLACK_h aNEUTRAL_h aWHITE_CHESS_EQUIHOPPER aBLACK_c aNEUTRAL_c
    aWHITE_CHESS_EQUIHOPPER_ROTATED_NINETY_DEGREES aBLACK_f aNEUTRAL_f aWHITE_CHESS_KNIGHT-QUEEN
    dROOK dBISHOP aBLACK_CHESS_KNIGHT-QUEEN dROOK dBISHOP 1FA60 aXIANGQI_RED_GENERAL cMANDARIN
    cELEPHANT cHORSE cCHARIOT cCANNON cSOLDIER bBLACK_GENERAL cMANDARIN cELEPHANT cHORSE cCHARIOT
    cCANNON cSOLDIER 1FA70 aBALLET_SHOES aONE-PIECE_SWIMSUIT aBRIEFS aSHORTS aTHONG_SANDAL 1FA78
    aDROP_OF_BLOOD aADHESIVE_BANDAGE aSTETHOSCOPE aX-RAY aCRUTCH 1FA80 aYO-YO aKITE aPARACHUTE
    aBOOMERANG aMAGIC_WAND aPINATA aNESTING_DOLLS 1FA90 aRINGED_PLANET aCHAIR aRAZOR aAXE aDIYA_LAMP
    aBANJO aMILITARY_HELMET aACCORDION aLONG_DRUM aCOIN aCARPENTRY_SAW aSCREWDRIVER aLADDER aHOOK
    aMIRROR aWINDOW aPLUNGER aSEWING_NEEDLE aKNOT aBUCKET aMOUSE_TRAP aTOOTHBRUSH aHEADSTONE
    aPLACARD aROCK aMIRROR_BALL aIDENTIFICATION_CARD aLOW_BATTERY aHAMSA 1FAB0 aFLY aWORM aBEETLE
    aCOCKROACH aPOTTED_PLANT aWOOD aFEATHER aLOTUS aCORAL aEMPTY_NEST aNEST_WITH_EGGS 1FAC0
    aANATOMICAL_HEART aLUNGS aPEOPLE_HUGGING aPREGNANT_MAN bPERSON aPERSON_WITH_CROWN 1FAD0
    aBLUEBERRIES aBELL_PEPPER aOLIVE aFLATBREAD aTAMALE aFONDUE aTEAPOT aPOURING_LIQUID aBEANS aJAR
    1FAE0 aMELTING_FACE aSALUTING_b aFACE_WITH_OPEN_EYES_AND_HAND_OVER_MOUTH cPEEKING_EYE
    cDIAGONAL_MOUTH aDOTTED_LINE_FACE aBITING_LIP aBUBBLES 1FAF0
    aHAND_WITH_INDEX_FINGER_AND_THUMB_CROSSED aRIGHTWARDS_HAND aLEFTWARDS_b aPALM_DOWN_b bUP_b
    aINDEX_POINTING_AT_THE_VIEWER aHEART_HANDS 1FB00 aBLOCK_SEXTANT-1 c2 c12 c3 c13 c23 c123 c4 c14
    c24 c124 c34 c134 c234 c1234 c5 c15 c25 c125 c35 c235 c1235 c45 c145 c245 c1245 c345 c1345 c2345
    c12345 c6 c16 c26 c126 c36 c136 c236 c1236 c46 c146 c1246 c346 c1346 c2346 c12346 c56 c156 c256
    c1256 c356 c1356 c2356 c12356 c456 c1456 c2456 c12456 c3456 c13456 c23456
    aLOWER_LEFT_BLOCK_DIAGONAL_LOWER_MIDDLE_LEFT_TO_LOWER_CENTRE jRIGHT
    eUPPER_MIDDLE_LEFT_TO_LOWER_CENTRE jRIGHT fLEFT_TO_LOWER_CENTRE
    bRIGHT_BLOCK_DIAGONAL_UPPER_MIDDLE_LEFT_TO_UPPER_b jRIGHT eLOWER_MIDDLE_LEFT_TO_UPPER_CENTRE
    jRIGHT fLEFT_TO_UPPER_CENTRE fMIDDLE_LEFT_TO_UPPER_MIDDLE_RIGHT fCENTRE_TO_LOWER_c fLEFT_e
    fCENTRE_TO_UPPER_c fLEFT_e fCENTRE_TO_UPPER_b
    bLEFT_BLOCK_DIAGONAL_UPPER_CENTRE_TO_UPPER_MIDDLE_b fLEFT_e fCENTRE_TO_LOWER_c fLEFT_e
    fCENTRE_TO_LOWER_b fMIDDLE_LEFT_TO_LOWER_MIDDLE_b
    aUPPER_RIGHT_BLOCK_DIAGONAL_LOWER_MIDDLE_LEFT_TO_LOWER_CENTRE jRIGHT
    eUPPER_MIDDLE_LEFT_TO_LOWER_CENTRE jRIGHT fLEFT_TO_LOWER_CENTRE
    bLEFT_BLOCK_DIAGONAL_UPPER_MIDDLE_LEFT_TO_UPPER_b jRIGHT eLOWER_MIDDLE_LEFT_TO_UPPER_CENTRE
    jRIGHT fLEFT_TO_UPPER_CENTRE fMIDDLE_LEFT_TO_UPPER_MIDDLE_RIGHT fCENTRE_TO_LOWER_c fLEFT_e
    fCENTRE_TO_UPPER_c fLEFT_e fCENTRE_TO_UPPER_b
    bRIGHT_BLOCK_DIAGONAL_UPPER_CENTRE_TO_UPPER_MIDDLE_b fLEFT_e fCENTRE_TO_LOWER_c fLEFT_e
    fCENTRE_TO_LOWER_b fMIDDLE_LEFT_TO_LOWER_MIDDLE_b
    bAND_RIGHT_AND_LOWER_TRIANGULAR_THREE_QUARTERS_BLOCK aLEFT_AND_LOWER_AND_RIGHT_e
    aUPPER_AND_LEFT_AND_LOWER_e aLEFT_AND_UPPER_AND_RIGHT_e bTRIANGULAR_ONE_QUARTER_b aUPPER_e
    aRIGHT_e aLOWER_e aVERTICAL_ONE_EIGHTH_BLOCK-2 e3 e4 e5 e6 e7 aHORIZONTAL_ONE_EIGHTH_BLOCK-2 e3
    e4 e5 e6 e7 aLEFT_AND_LOWER_ONE_EIGHTH_BLOCK cUPPER_d aRIGHT_f cLOWER_d aUPPER_f
    aHORIZONTAL_ONE_EIGHTH_BLOCK-1358 aUPPER_ONE_QUARTER_BLOCK bTHREE_EIGHTHS_b bFIVE_c
    bTHREE_QUARTERS_b bSEVEN_EIGHTHS_b aRIGHT_ONE_QUARTER_b bTHREE_EIGHTHS_b bFIVE_c
    bTHREE_QUARTERS_b bSEVEN_EIGHTHS_b aLEFT_HALF_MEDIUM_SHADE aRIGHT_d aUPPER_d aLOWER_d aINVERSE_c
    aUPPER_HALF_BLOCK_AND_LOWER_HALF_d cINVERSE_MEDIUM_SHADE_AND_LOWER_HALF_BLOCK 1FB94
    aLEFT_HALF_INVERSE_MEDIUM_SHADE_AND_RIGHT_c aCHECKER_BOARD_FILL aINVERSE_d aHEAVY_HORIZONTAL_b
    aUPPER_LEFT_TO_LOWER_RIGHT_b bRIGHT_TO_LOWER_LEFT_b bAND_LOWER_TRIANGULAR_HALF_BLOCK
    aLEFT_AND_RIGHT_d aUPPER_LEFT_TRIANGULAR_MEDIUM_SHADE bRIGHT_d aLOWER_e bLEFT_d
    aBOX_DRAWINGS_LIGHT_DIAGONAL_UPPER_CENTRE_TO_MIDDLE_LEFT iRIGHT eMIDDLE_LEFT_TO_LOWER_CENTRE
    fRIGHT_d eUPPER_CENTRE_TO_MIDDLE_LEFT_d iRIGHT_d eMIDDLE_LEFT_TO_LOWER_CENTRE_TO_MIDDLE_RIGHT
    hUPPER_e eUPPER_CENTRE_TO_MIDDLE_LEFT_AND_MIDDLE_RIGHT_TO_LOWER_CENTRE iRIGHT_AND_MIDDLE_LEFT_d
    jTO_LOWER_CENTRE_TO_MIDDLE_LEFT iLEFT_TO_LOWER_CENTRE_TO_MIDDLE_RIGHT
    eMIDDLE_LEFT_TO_UPPER_CENTRE_TO_MIDDLE_RIGHT_TO_LOWER_CENTRE
    fRIGHT_TO_UPPER_CENTRE_TO_MIDDLE_LEFT_d eDIAMOND dHORIZONTAL_WITH_VERTICAL_STROKE
    aARROWHEAD-SHAPED_POINTER aINVERSE_CHECK_MARK aLEFT_HALF_RUNNING_MAN aRIGHT_d
    aINVERSE_DOWNWARDS_ARROW_WITH_TIP_LEFTWARDS
    aLEFTWARDS_ARROW_AND_UPPER_AND_LOWER_ONE_EIGHTH_BLOCK aRIGHTWARDS_i aDOWNWARDS_ARROW_AND_RIGHT_d
    aUPWARDS_g aLEFT_HALF_FOLDER aRIGHT_c aVOIDED_GREEK_CROSS aRIGHT_OPEN_SQUARED_DOT
    aNEGATIVE_DIAGONAL_CROSS cMIDDLE_RIGHT_TO_LOWER_CENTRE cDIAMOND
    aWHITE_HEAVY_SALTIRE_WITH_ROUNDED_CORNERS aLEFT_THIRD_WHITE_RIGHT_POINTING_INDEX aMIDDLE_f
    aRIGHT_f aNEGATIVE_SQUARED_QUESTION_MARK aSTICK_FIGURE bFIGURE_WITH_ARMS_RAISED cLEANING_LEFT
    dRIGHT cWITH_DRESS aWHITE_UP-POINTING_CHEVRON 1FBF0 aSEGMENTED_DIGIT_ZERO cONE cTWO cTHREE cFOUR
    cFIVE cSIX cSEVEN cEIGHT cNINE E0001 aLANGUAGE_TAG E0020 aTAG_SPACE bEXCLAMATION_MARK
    bQUOTATION_b bNUMBER_SIGN bDOLLAR_b bPERCENT_b bAMPERSAND bAPOSTROPHE bLEFT_PARENTHESIS bRIGHT_b
    bASTERISK bPLUS_SIGN bCOMMA bHYPHEN-MINUS bFULL_STOP bSOLIDUS bDIGIT_ZERO cONE cTWO cTHREE cFOUR
    cFIVE cSIX cSEVEN cEIGHT cNINE bCOLON bSEMICOLON bLESS-THAN_SIGN bEQUALS_b bGREATER-THAN_b
    bQUESTION_MARK bCOMMERCIAL_AT bLATIN_CAPITAL_LETTER_A eB eC eD eE eF eG eH eI eJ eK eL eM eN eO
    eP eQ eR eS eT eU eV eW eX eY eZ bLEFT_SQUARE_BRACKET bREVERSE_SOLIDUS bRIGHT_SQUARE_BRACKET
    bCIRCUMFLEX_ACCENT bLOW_LINE bGRAVE_ACCENT bLATIN_SMALL_LETTER_A eB eC eD eE eF eG eH eI eJ eK
    eL eM eN eO eP eQ eR eS eT eU eV eW eX eY eZ bLEFT_CURLY_BRACKET bVERTICAL_LINE
    bRIGHT_CURLY_BRACKET bTILDE aCANCEL_TAG E0100 aVARIATION_SELECTOR-17 c18 c19 c20 c21 c22 c23 c24
    c25 c26 c27 c28 c29 c30 c31 c32 c33 c34 c35 c36 c37 c38 c39 c40 c41 c42 c43 c44 c45 c46 c47 c48
    c49 c50 c51 c52 c53 c54 c55 c56 c57 c58 c59 c60 c61 c62 c63 c64 c65 c66 c67 c68 c69 c70 c71 c72
    c73 c74 c75 c76 c77 c78 c79 c80 c81 c82 c83 c84 c85 c86 c87 c88 c89 c90 c91 c92 c93 c94 c95 c96
    c97 c98 c99 c100 c101 c102 c103 c104 c105 c106 c107 c108 c109 c110 c111 c112 c113 c114 c115 c116
    c117 c118 c119 c120 c121 c122 c123 c124 c125 c126 c127 c128 c129 c130 c131 c132 c133 c134 c135
    c136 c137 c138 c139 c140 c141 c142 c143 c144 c145 c146 c147 c148 c149 c150 c151 c152 c153 c154
    c155 c156 c157 c158 c159 c160 c161 c162 c163 c164 c165 c166 c167 c168 c169 c170 c171 c172 c173
    c174 c175 c176 c177 c178 c179 c180 c181 c182 c183 c184 c185 c186 c187 c188 c189 c190 c191 c192
    c193 c194 c195 c196 c197 c198 c199 c200 c201 c202 c203 c204 c205 c206 c207 c208 c209 c210 c211
    c212 c213 c214 c215 c216 c217 c218 c219 c220 c221 c222 c223 c224 c225 c226 c227 c228 c229 c230
    c231 c232 c233 c234 c235 c236 c237 c238 c239 c240 c241 c242 c243 c244 c245 c246 c247 c248 c249
    c250 c251 c252 c253 c254 c255 c256"

end SourceConventions.Text.CharName
